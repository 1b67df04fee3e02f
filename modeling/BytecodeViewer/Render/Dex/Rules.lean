import BytecodeViewer.Highlight
import BytecodeViewer.Pattern.Build
import BytecodeViewer.Render.Java.Rules

/-!
# Colours of assembly listings

Directives, opcodes, registers, type descriptors, string literals and comments,
in this order.
-/

namespace BytecodeViewer

namespace Dex

open Pattern (Node SetItem)

def margin : Node := .oneOf [.char ' ', .char '\t']

def wordChar : Node := .oneOf [.word]

/-- A directive at the start of a line; the end of a block takes a second word. -/
def directivePattern : Pattern where
  source := "^[ \\t]*(\\.end \\w+|\\.\\w+)"
  groups := 1
  root := .sequence [
    .anchor .lineStart,
    .many margin,
    .group 1 (.choice [
      .sequence [.just '.', .just 'e', .just 'n', .just 'd', .just ' ', .several wordChar],
      .sequence [.just '.', .several wordChar]])]

def opcodePattern : Pattern where
  source := "^[ \\t]+([a-z][a-z0-9/-]*)(?= [^=]|$)"
  groups := 1
  root := .sequence [
    .anchor .lineStart,
    .several margin,
    .group 1 (.sequence [
      .oneOf [.chars 'a' 'z'],
      .many (.oneOf [.chars 'a' 'z', .chars '0' '9', .char '/', .char '-'])]),
    .look .ahead false (.choice [.sequence [.just ' ', .other '='], .anchor .lineEnd])]

def registerPattern : Pattern where
  source := "\\b([vp]\\d+)\\b"
  groups := 1
  root := .sequence [
    Java.wordEdge,
    .group 1 (.sequence [.oneOf [.char 'v', .char 'p'], .several (.oneOf [.digit])]),
    Java.wordEdge]

def descriptorPattern : Pattern where
  source := "(\\[*L[\\w/$]+;)"
  groups := 1
  root := .group 1 (.sequence [
    .many (.just '['), .just 'L', .several (.oneOf [.word, .char '/', .char '$']), .just ';'])

def commentPattern : Pattern where
  source := "(#[^\\n]*)"
  groups := 1
  root := .group 1 (.sequence [.just '#', .many (.other '\n')])

def rules : List HighlightRule := [
  ⟨directivePattern, ⟨0x7f, 0x00, 0x55⟩⟩,
  ⟨opcodePattern, ⟨0x00, 0x00, 0x7f⟩⟩,
  ⟨registerPattern, ⟨0x00, 0x00, 0xc0⟩⟩,
  ⟨descriptorPattern, ⟨0x00, 0x7f, 0x7f⟩⟩,
  ⟨Java.stringPattern, ⟨0x2a, 0x00, 0xff⟩⟩,
  ⟨commentPattern, ⟨0x3f, 0x7f, 0x5f⟩⟩]

/-- The patterns are what their sources are read as; only directives and opcodes are looked for
line by line. -/
theorem read_rules :
    List.zipWith (fun rule o => (Pattern.read rule.pattern.source o).toOption) rules
      [{ multiline := true }, { multiline := true }, {}, {}, {}, {}] =
        rules.map (some ·.pattern) := by
  decide +kernel

end Dex

end BytecodeViewer
