import BytecodeViewer.Path
import BytecodeViewer.Text.Quoted

/-!
# Faults of the system

The operating system tells its faults by numbers; some numbers have kinds of their own.
-/

namespace BytecodeViewer

structure SystemFault where
  number : Int
  told : String
  /-- The file that the fault is about. -/
  file : Option String := none
  deriving DecidableEq, Repr

namespace SystemFault

def kinds : List (Int × String) :=
  [(1, "PermissionError"), (2, "FileNotFoundError"), (3, "ProcessLookupError"),
    (4, "InterruptedError"), (10, "ChildProcessError"), (11, "BlockingIOError"),
    (13, "PermissionError"), (17, "FileExistsError"), (20, "NotADirectoryError"),
    (21, "IsADirectoryError"), (32, "BrokenPipeError"), (103, "ConnectionAbortedError"),
    (104, "ConnectionResetError"), (108, "BrokenPipeError"), (110, "TimeoutError"),
    (111, "ConnectionRefusedError"), (114, "BlockingIOError"), (115, "BlockingIOError")]

def generalKind : String := "OSError"

def kind (f : SystemFault) : String :=
  (kinds.lookup f.number).getD generalKind

def message (f : SystemFault) : String :=
  "[Errno " ++ toString f.number ++ "] " ++ f.told ++
    match f.file with
    | some file => ": " ++ Text.quoted file
    | none => ""

def missing (p : Path) : SystemFault :=
  ⟨2, "No such file or directory", some p.text⟩

def belowFile (p : Path) : SystemFault :=
  ⟨20, "Not a directory", some p.text⟩

def noFreeName : SystemFault :=
  ⟨17, "No usable temporary file name found", none⟩

def isDirectory (p : Path) : SystemFault :=
  ⟨21, "Is a directory", some p.text⟩

end SystemFault

end BytecodeViewer
