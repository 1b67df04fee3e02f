/-!
# Access flags

The flags of a class, field or method, with the bit that each has in a
container.  Modifiers are the flags that are written as words in front of a
declaration, in one fixed order.
-/

namespace BytecodeViewer

inductive AccessFlag where
  | isPublic
  | isPrivate
  | isProtected
  | isStatic
  | isFinal
  | isSynchronized
  | isVolatile
  | isTransient
  | isNative
  | isInterface
  | isAbstract
  | isStrict
  | isSynthetic
  | isAnnotationType
  | isEnum
  | isConstructor
  deriving DecidableEq, Repr

namespace AccessFlag

def bit : AccessFlag → Nat
  | isPublic => 0
  | isPrivate => 1
  | isProtected => 2
  | isStatic => 3
  | isFinal => 4
  | isSynchronized => 5
  | isVolatile => 6
  | isTransient => 7
  | isNative => 8
  | isInterface => 9
  | isAbstract => 10
  | isStrict => 11
  | isSynthetic => 12
  | isAnnotationType => 13
  | isEnum => 14
  | isConstructor => 16

def word : AccessFlag → String
  | isPublic => "public"
  | isPrivate => "private"
  | isProtected => "protected"
  | isStatic => "static"
  | isFinal => "final"
  | isSynchronized => "synchronized"
  | isVolatile => "volatile"
  | isTransient => "transient"
  | isNative => "native"
  | isInterface => "interface"
  | isAbstract => "abstract"
  | isStrict => "strictfp"
  | isSynthetic => "synthetic"
  | isAnnotationType => "annotation"
  | isEnum => "enum"
  | isConstructor => "constructor"

/-- The flags written as modifiers of a declaration, in their order. -/
def modifiers : List AccessFlag :=
  [isPublic, isPrivate, isProtected, isStatic, isFinal, isSynchronized, isVolatile, isTransient,
    isNative, isAbstract]

/-- All flags, in the order of a listing that spells out every one. -/
def listing : List AccessFlag :=
  modifiers ++ [isInterface, isStrict, isSynthetic, isAnnotationType, isEnum, isConstructor]

end AccessFlag

/-- A set of access flags, as the number whose bits they are. -/
structure Access where
  bits : Nat
  deriving DecidableEq, Repr

namespace Access

def width : Nat := 17

/-- The flags of a number.  A negative one has the bits of its two's complement. -/
def ofInt (n : Int) : Access :=
  ⟨(n % (1 <<< width : Nat)).toNat⟩

def none : Access := ⟨0⟩

def ofFlag (f : AccessFlag) : Access := ⟨1 <<< f.bit⟩

def has (a : Access) (f : AccessFlag) : Bool :=
  a.bits.testBit f.bit

def words (a : Access) (flags : List AccessFlag) : String :=
  String.intercalate " " ((flags.filter a.has).map (·.word))

/-- The modifiers that are set, except for those of another set. -/
def modifiers (a : Access) (excluded : Access) : String :=
  a.words (AccessFlag.modifiers.filter fun f => !excluded.has f)

def listing (a : Access) : String :=
  a.words AccessFlag.listing

end Access

end BytecodeViewer
