import ClusterTopology.Text.Basic

/-!
Bytes and texts. Decoding refuses what is not well-formed and says where the first ill-formed
sequence begins, how many of its bytes were still good, and why the next one is not.
-/

namespace ClusterTopology.Utf8

abbrev Bytes := List UInt8

inductive Reason where
  | invalidStart
  | invalidContinuation
  | unexpectedEnd
  deriving DecidableEq

structure Fault where
  position : Nat
  first : UInt8
  span : Nat
  reason : Reason
  deriving DecidableEq

/-- A sequence of which `missing` bytes are still to come, the next of them between `low` and
`high`. -/
structure Pending where
  position : Nat
  first : UInt8
  taken : Nat
  missing : Nat
  low : UInt8
  high : UInt8
  value : Nat

def Pending.fault (p : Pending) (reason : Reason) : Fault :=
  ⟨p.position, p.first, p.taken, reason⟩

/-- What a byte at or above `0x80` opens. The second byte is restricted where the sequence would
otherwise be overlong, name a surrogate, or leave the code space. -/
def Pending.opened (position : Nat) (b : UInt8) : Option Pending :=
  if b < 0xc2 then none
  else if b < 0xe0 then some ⟨position, b, 1, 1, 0x80, 0xbf, b.toNat % 32⟩
  else if b < 0xf0 then
    some ⟨position, b, 1, 2, if b = 0xe0 then 0xa0 else 0x80, if b = 0xed then 0x9f else 0xbf,
      b.toNat % 16⟩
  else if b < 0xf5 then
    some ⟨position, b, 1, 3, if b = 0xf0 then 0x90 else 0x80, if b = 0xf4 then 0x8f else 0xbf,
      b.toNat % 8⟩
  else none

def Pending.continued (p : Pending) (b : UInt8) : Pending :=
  { p with
    taken := p.taken + 1, missing := p.missing - 1, low := 0x80, high := 0xbf,
    value := 64 * p.value + b.toNat % 64 }

def decodeFrom : (position : Nat) → Option Pending → Bytes → Except Fault Text
  | _, none, [] => .ok []
  | _, some p, [] => .error (p.fault .unexpectedEnd)
  | position, none, b :: rest =>
    if b < 0x80 then (decodeFrom (position + 1) none rest).map (Fin.ofNat _ b.toNat :: ·)
    else match Pending.opened position b with
      | none => .error ⟨position, b, 1, .invalidStart⟩
      | some p => decodeFrom (position + 1) (some p) rest
  | position, some p, b :: rest =>
    if b < p.low || p.high < b then .error (p.fault .invalidContinuation)
    else if p.missing = 1 then
      (decodeFrom (position + 1) none rest).map (Fin.ofNat _ (p.continued b).value :: ·)
    else decodeFrom (position + 1) (some (p.continued b)) rest

def decode (bytes : Bytes) : Except Fault Text := decodeFrom 0 none bytes

def Reason.message : Reason → Text
  | .invalidStart => "invalid start byte"
  | .invalidContinuation => "invalid continuation byte"
  | .unexpectedEnd => "unexpected end of data"

def Fault.message (f : Fault) : Text :=
  let place : Text :=
    if f.span = 1 then
      "byte 0x" ++ Text.ofHex 2 f.first.toNat ++ " in position " ++ Text.ofNat f.position
    else
      "bytes in position " ++ Text.ofNat f.position ++ "-" ++ Text.ofNat (f.position + f.span - 1)
  "'utf-8' codec can't decode " ++ place ++ ": " ++ f.reason.message

/-- The number of bytes of a code point; one half of a surrogate pair counts like its neighbours. -/
def width (c : CodePoint) : Nat :=
  if c.val < 0x80 then 1 else if c.val < 0x800 then 2 else if c.val < 0x10000 then 3 else 4

def encodeOne (c : CodePoint) : Bytes :=
  let tail (unit : Nat) : UInt8 := UInt8.ofNat (0x80 + c.val / unit % 0x40)
  match width c with
  | 1 => [UInt8.ofNat c.val]
  | 2 => [UInt8.ofNat (0xc0 + c.val / 0x40), tail 1]
  | 3 => [UInt8.ofNat (0xe0 + c.val / 0x1000), tail 0x40, tail 1]
  | _ => [UInt8.ofNat (0xf0 + c.val / 0x40000), tail 0x1000, tail 0x40, tail 1]

def encode (t : Text) : Bytes := t.flatMap encodeOne

end ClusterTopology.Utf8

namespace ClusterTopology.Text

def withLineFeeds : Text → Text
  | [] => []
  | c :: rest =>
    if c = '\r' then
      match rest with
      | [] => [('\n' : Char)]
      | d :: after =>
        if d = '\n' then d :: withLineFeeds after
        else ('\n' : Char) :: withLineFeeds (d :: after)
    else c :: withLineFeeds rest

end ClusterTopology.Text
