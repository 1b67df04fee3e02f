import BytecodeViewer.Highlight
import BytecodeViewer.Pattern.Build
import BytecodeViewer.Pattern.Reader

/-!
# Colours of pseudo-source

Keywords, annotations, numbers, string literals and the two kinds of comments,
in this order, so that a comment paints over what it holds.
-/

namespace BytecodeViewer

namespace Java

open Pattern (Node SetItem)

def keywords : List String :=
  ["public", "private", "protected", "static", "final", "synchronized", "volatile", "transient",
    "native", "abstract", "class", "interface", "enum", "extends", "implements", "package",
    "return", "new", "throw", "goto", "if", "this", "null", "void", "boolean", "byte", "char",
    "short", "int", "long", "float", "double"]

def wordEdge : Node := .anchor (.wordEdge false)

def keywordPattern : Pattern where
  source := "\\b(" ++ String.intercalate "|" keywords ++ ")\\b"
  groups := 1
  root := .sequence [wordEdge, .group 1 (.choice (keywords.map .word)), wordEdge]

def nameItems : List SetItem := [.word, .char '.', .char '$']

def annotationPattern : Pattern where
  source := "(@[\\w.$]+)"
  groups := 1
  root := .group 1 (.sequence [.just '@', .several (.oneOf nameItems)])

/-- A number, with sign and suffix, that does not begin inside a name. -/
def numberPattern : Pattern where
  source := "(?<![\\w.$])(-?(?:0x[0-9a-fA-F]+|\\d+)[LlFfDd]?)\\b"
  groups := 1
  root := .sequence [
    .look (.behind 1) true (.oneOf nameItems),
    .group 1 (.sequence [
      .optional (.just '-'),
      .choice [
        .sequence [.just '0', .just 'x',
          .several (.oneOf [.chars '0' '9', .chars 'a' 'f', .chars 'A' 'F'])],
        .several (.oneOf [.digit])],
      .optional (.oneOf
        [.char 'L', .char 'l', .char 'F', .char 'f', .char 'D', .char 'd'])]),
    wordEdge]

def stringPattern : Pattern where
  source := "(\"(?:[^\"\\\\\\n]|\\\\.)*\")"
  groups := 1
  root := .group 1 (.sequence [
    .just '"',
    .many (.choice [
      .noneOf [.char '"', .char '\\', .char '\n'],
      .sequence [.just '\\', .char .notNewline]]),
    .just '"'])

def lineCommentPattern : Pattern where
  source := "(//[^\\n]*)"
  groups := 1
  root := .group 1 (.sequence [.just '/', .just '/', .many (.other '\n')])

def blockCommentPattern : Pattern where
  source := "(/\\*.*?\\*/)"
  groups := 1
  root := .group 1 (.sequence [
    .just '/', .just '*', .repetition (.char .any) 0 none .lazy, .just '*', .just '/'])

def rules : List HighlightRule := [
  ⟨keywordPattern, ⟨0x7f, 0x00, 0x55⟩⟩,
  ⟨annotationPattern, ⟨0x64, 0x64, 0x64⟩⟩,
  ⟨numberPattern, ⟨0x00, 0x00, 0xc0⟩⟩,
  ⟨stringPattern, ⟨0x2a, 0x00, 0xff⟩⟩,
  ⟨lineCommentPattern, ⟨0x3f, 0x7f, 0x5f⟩⟩,
  ⟨blockCommentPattern, ⟨0x3f, 0x7f, 0x5f⟩⟩]

/-- The patterns are what their sources are read as; only in that of a block comment a dot
stands for the end of a line, too. -/
theorem read_rules :
    List.zipWith (fun rule o => (Pattern.read rule.pattern.source o).toOption) rules
      [{}, {}, {}, {}, {}, { dotAll := true }] = rules.map (some ·.pattern) := by
  decide +kernel

end Java

end BytecodeViewer
