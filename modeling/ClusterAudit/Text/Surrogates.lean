/-!
# Surrogate pairs

A character beyond the first plane may be written as two code points, the halves of a surrogate pair.
A half without its counterpart stands for no character and is replaced.
-/

namespace ClusterAudit.Text

/-- The character that stands where there is none. -/
def replacement : Char := '\ufffd'

/-- Whether the code point is the first half of a pair. -/
def isHighSurrogate (code : Nat) : Bool :=
  0xd800 ≤ code && code < 0xdc00

def isLowSurrogate (code : Nat) : Bool :=
  0xdc00 ≤ code && code < 0xe000

/-- The characters of code points, where `high` is a first half that stands before them. -/
def ofCodePoints (high : Option Nat) : List Nat → List Char
  | [] => if high.isSome then [replacement] else []
  | code :: rest =>
    match high with
    | some first =>
      if isLowSurrogate code then
        Char.ofNat (0x10000 + (first - 0xd800) * 0x400 + (code - 0xdc00)) :: ofCodePoints none rest
      else if isHighSurrogate code then replacement :: ofCodePoints (some code) rest
      else replacement :: Char.ofNat code :: ofCodePoints none rest
    | none =>
      if isHighSurrogate code then ofCodePoints (some code) rest
      else if isLowSurrogate code then replacement :: ofCodePoints none rest
      else Char.ofNat code :: ofCodePoints none rest

end ClusterAudit.Text
