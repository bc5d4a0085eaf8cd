/-!
# Widths of primitive types

The native representations that a primitive type may have.  `Width.text` is the name of a
width and `Width.ofText?` reads it back.
-/

namespace NativeApi

/-- A native representation; an incomplete type has no size of its own. -/
inductive Width where
  | void
  | char
  | i8
  | u8
  | i16
  | u16
  | i32
  | u32
  | i64
  | u64
  | f32
  | f64
  | usize
  | pointer
  | incomplete
  deriving DecidableEq, Inhabited

namespace Width

/-- Every width. -/
def all : List Width :=
  [void, char, i8, u8, i16, u16, i32, u32, i64, u64, f32, f64, usize, pointer, incomplete]

/-- The name of a width, which is also the canonical name of a type of that width. -/
def text : Width → String
  | void => "void"
  | char => "char"
  | i8 => "i8"
  | u8 => "u8"
  | i16 => "i16"
  | u16 => "u16"
  | i32 => "i32"
  | u32 => "u32"
  | i64 => "i64"
  | u64 => "u64"
  | f32 => "f32"
  | f64 => "f64"
  | usize => "usize"
  | pointer => "pointer"
  | incomplete => "opaque"

/-- The width of a name. -/
def ofText? (name : String) : Option Width := all.find? (·.text == name)

/-- The number of bytes of a value. -/
def size? : Width → Option Nat
  | void | incomplete => none
  | char | i8 | u8 => some 1
  | i16 | u16 => some 2
  | i32 | u32 | f32 => some 4
  | i64 | u64 | f64 | usize | pointer => some 8

/-- Whether there are values of the width. -/
def isValue : Width → Bool
  | void | incomplete => false
  | _ => true

end Width

end NativeApi
