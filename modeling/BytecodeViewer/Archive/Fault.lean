import BytecodeViewer.Archive.Inflate
import BytecodeViewer.Archive.Unlzma
import BytecodeViewer.Text.Quoted
import BytecodeViewer.Text.Utf8

/-!
# Faults of archives

Why an archive cannot be read.  Some faults say that the archive is damaged,
others that it uses what this reader does not support.
-/

namespace BytecodeViewer

inductive ArchiveFault where
  | severalDisks
  | directoryOffset
  | directoryTruncated
  | directoryMagic
  | version (tenths : Nat)
  | extraField (tag size : Nat)
  | largeField (name : String)
  | nameEncoding (why : Text.Utf8Fault)
  | headerTruncated
  | headerMagic
  | patchedData
  | strongEncryption
  | nameDiffers (listed : String) (found : List UInt8)
  | overlap (name : String)
  | encrypted (described : String)
  | method
  | checksum (name : String)
  | inflate (why : InflateFault)
  /-- Sorted blocks are corrupt. -/
  | blocks
  | ranges (why : LzmaFault)
  | dataEnds
  | seek
  /-- A place is told by a number too large for the system. -/
  | placeTooLarge
  deriving DecidableEq

namespace ArchiveFault

def kind : ArchiveFault → String
  | version _ | patchedData | strongEncryption | method => "NotImplementedError"
  | encrypted _ => "RuntimeError"
  | nameEncoding _ => "UnicodeDecodeError"
  | inflate _ => "error"
  | ranges _ => "LZMAError"
  | dataEnds => "EOFError"
  | blocks | seek => "OSError"
  | placeTooLarge => "ValueError"
  | severalDisks | directoryOffset | directoryTruncated | directoryMagic | extraField .. |
    largeField _ | headerTruncated | headerMagic | nameDiffers .. | overlap _ | checksum _ =>
    "BadZipFile"

def message : ArchiveFault → String
  | severalDisks => "zipfiles that span multiple disks are not supported"
  | directoryOffset => "Bad offset for central directory"
  | directoryTruncated => "Truncated central directory"
  | directoryMagic => "Bad magic number for central directory"
  | version tenths =>
    "zip file version " ++ toString (tenths / 10) ++ "." ++ toString (tenths % 10)
  | extraField tag size =>
    "Corrupt extra field " ++ String.ofList (Text.hexDigits 4 tag) ++
      " (size=" ++ toString size ++ ")"
  | largeField name => "Corrupt zip64 extra field. " ++ name ++ " not found."
  | nameEncoding why => why.message
  | headerTruncated => "Truncated file header"
  | headerMagic => "Bad magic number for file header"
  | patchedData => "compressed patched data (flag bit 5)"
  | strongEncryption => "strong encryption (flag bit 6)"
  | nameDiffers listed found =>
    "File name in directory " ++ Text.quoted listed ++ " and header " ++ Text.quotedBytes found ++
      " differ."
  | overlap name => "Overlapped entries: " ++ Text.quoted name ++ " (possible zip bomb)"
  | encrypted described =>
    "File " ++ described ++ " is encrypted, password required for extraction"
  | method => "That compression method is not supported"
  | checksum name => "Bad CRC-32 for file " ++ Text.quoted name
  | inflate why => "Error -3 while decompressing data: " ++ why.message
  | blocks => "Invalid data stream"
  | ranges why => why.message
  | dataEnds => ""
  | seek => "[Errno 22] Invalid argument"
  | placeTooLarge => "cannot fit 'int' into an offset-sized integer"

def isDamage (f : ArchiveFault) : Bool :=
  f.kind == "BadZipFile" || f.kind == "error"

end ArchiveFault

end BytecodeViewer
