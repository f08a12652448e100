import NumberedBasic.Text.Basic

/-! # Decoding

Octets are decoded one after the other. An octet completes a character, goes on with one
or is broken, and is found to be so without looking at what follows it.
-/

namespace NumberedBasic.Utf8

/-- What octets in a row are: a character, the beginning of one, or neither. -/
inductive Sequence where
  | whole (c : Char)
  | begun
  | broken
  deriving DecidableEq, Repr

def isContinuation (octet : Nat) : Bool :=
  0x80 ≤ octet && octet ≤ 0xBF

def isLead (octet : Nat) : Bool :=
  0xC2 ≤ octet && octet ≤ 0xF4

/-- Octets that can stand first and second. Codes are spelled no longer than need be, and
none is beyond the last one. -/
def canFollow (first second : Nat) : Bool :=
  isLead first && isContinuation second &&
    (first != 0xE0 || 0xA0 ≤ second) && (first != 0xF0 || 0x90 ≤ second) &&
    (first != 0xF4 || second ≤ 0x8F)

/-- A third octet would spell a surrogate, which is no character. -/
def isSurrogate (first second : Nat) : Bool :=
  first == 0xED && 0xA0 ≤ second

def sequence : List Nat → Sequence
  | [a] => if a < 0x80 then .whole (Char.ofNat a) else if isLead a then .begun else .broken
  | [a, b] =>
    if !canFollow a b then .broken
    else if a < 0xE0 then .whole (Char.ofNat (a % 0x20 * 0x40 + b % 0x40))
    else .begun
  | [a, b, c] =>
    if !(canFollow a b && 0xE0 ≤ a && isContinuation c) || isSurrogate a b then .broken
    else if a < 0xF0 then
      .whole (Char.ofNat (a % 0x10 * 0x1000 + b % 0x40 * 0x40 + c % 0x40))
    else .begun
  | [a, b, c, d] =>
    if !(canFollow a b && 0xF0 ≤ a && isContinuation c && isContinuation d) then .broken
    else
      .whole (Char.ofNat (a % 0x08 * 0x40000 + b % 0x40 * 0x1000 + c % 0x40 * 0x40 + d % 0x40))
  | _ => .broken

/-- Decoded octets: the text, the octets of a character that is not complete, and those
from the first broken one on. -/
structure Decoded where
  text : Text
  unfinished : List UInt8
  unread : List UInt8
  deriving DecidableEq, Repr

/-- Decodes octets behind a text, which is reversed, and the octets of a character that
has begun. -/
def decodeFrom (text : Text) (begun : List UInt8) : List UInt8 → Decoded
  | [] => ⟨text.reverse, begun, []⟩
  | octet :: rest =>
    match sequence ((begun ++ [octet]).map UInt8.toNat) with
    | .whole c => decodeFrom (c :: text) [] rest
    | .begun => decodeFrom text (begun ++ [octet]) rest
    | .broken => ⟨text.reverse, begun, octet :: rest⟩

def decode (octets : List UInt8) : Decoded :=
  decodeFrom [] [] octets

end NumberedBasic.Utf8
