import Mathlib.Tactic.Common

/-!
# The parts of Rust's standard library the program uses

Process environment, ASCII case folding, the integer parsers and the file-system
queries, as the standard library documents them.
-/

namespace Hazel

/-- `std::env::VarError`. The payload of `notUnicode` is the raw value. -/
inductive VarError where
  | notPresent
  | notUnicode (raw : List UInt8)
  deriving DecidableEq, Repr

/-- What `std::env::var` answers for each name. -/
abbrev Environment := String → Except VarError String

/-- The environment with the given variables and no others. -/
def Environment.of (vars : List (String × Except VarError String)) : Environment :=
  fun name => (vars.lookup name).getD (.error .notPresent)

/-- `str::to_ascii_lowercase`. -/
def toAsciiLowercase (s : String) : String := String.ofList (s.toList.map Char.toLower)

/-- `u8::to_ascii_lowercase`, on every byte. -/
def bytesToAsciiLowercase (raw : List UInt8) : List UInt8 :=
  raw.map fun b => if 65 ≤ b ∧ b ≤ 90 then b + 32 else b

/-- `from_str` of an unsigned integer type with `bound` values, digit by digit: a
digit is checked before the overflow. -/
def natFromDigits (bound : Nat) : Nat → List Char → Except String Nat
  | acc, [] => .ok acc
  | acc, c :: cs =>
    if c.isDigit then
      let next := acc * 10 + (c.toNat - '0'.toNat)
      if next < bound then natFromDigits bound next cs
      else .error "number too large to fit in target type"
    else .error "invalid digit found in string"

/-- One leading `+` is allowed when a digit follows. -/
def natFromStr (bound : Nat) (s : String) : Except String Nat :=
  match s.toList with
  | [] => .error "cannot parse integer from empty string"
  | ['+'] => .error "invalid digit found in string"
  | '+' :: digits => natFromDigits bound 0 digits
  | digits => natFromDigits bound 0 digits

/-- `u16::from_str`. -/
def u16FromStr (s : String) : Except String UInt16 := (natFromStr 65536 s).map UInt16.ofNat

/-- `usize::from_str`, for a 64-bit target. -/
def usizeFromStr (s : String) : Except String Nat := natFromStr 18446744073709551616 s

example : u16FromStr "+8989" = .ok 8989 := by decide

/-- An error of the file system, by its text. -/
structure IoError where
  text : String
  deriving DecidableEq, Repr

/-- What a path leads to. `unreachable` is a path whose metadata cannot be
read, a directory on the way being closed for instance. -/
inductive Entry where
  | missing
  | directory
  | file (contents : Except IoError String)
  | unreachable (e : IoError)

/-- `Path::exists`: an unreadable path counts as missing. -/
def Entry.exists : Entry → Bool
  | .directory | .file _ => true
  | .missing | .unreachable _ => false

/-- `Path::is_file`. -/
def Entry.isFile : Entry → Bool
  | .file _ => true
  | _ => false

/-- `Path::try_exists`. -/
def Entry.tryExists : Entry → Except IoError Bool
  | .unreachable e => .error e
  | .missing => .ok false
  | .directory | .file _ => .ok true

/-- `fs::read_to_string`. -/
def Entry.readToString : Entry → Except IoError String
  | .file contents => contents
  | .directory => .error ⟨"Is a directory (os error 21)"⟩
  | .missing => .error ⟨"No such file or directory (os error 2)"⟩
  | .unreachable e => .error e

end Hazel
