/-!
# Receivers

A receiver takes the octets it is offered in portions of its own choice, and may stop at any point.
All that is sent is offered again and again until the receiver has taken it or refuses.
-/

namespace TypeFixtures

/-- A sequence of octets. -/
abbrev Octets := List UInt8

/-- The octets of a text. -/
def octets (s : String) : Octets :=
  s.toByteArray.data.toList

/-- What a receiver does with one offer. -/
inductive Receiver.Answer where
  | takes (count : Nat)
  | refuses (detail : String)
  deriving DecidableEq, Repr

/-- A place that octets are sent to. -/
structure Receiver where
  /-- The answer to an offer, given how many octets were taken before and how many are offered. -/
  answer : (before offered : Nat) → Receiver.Answer
  /-- What a final flush reports. -/
  flush : Option String

/-- What arrived at a receiver, and how the sending ended. -/
structure Delivery (ε α : Type) where
  received : Octets
  result : Except ε α

namespace Receiver

/-- What is reported when an offer is not refused and yet nothing is taken. -/
def wholeBufferText : String :=
  "failed to write whole buffer"

/-- Offer octets until all are taken, none is taken or an offer is refused.  The octets that were
taken are a prefix of those offered. -/
def takeAll (receiver : Receiver) (before : Nat) (bytes : Octets) :
    Octets × Except String Unit :=
  match bytes with
  | [] => ([], .ok ())
  | b :: rest =>
      match receiver.answer before (rest.length + 1) with
      | .refuses detail => ([], .error detail)
      | .takes 0 => ([], .error wholeBufferText)
      | .takes (n + 1) =>
          let (taken, result) :=
            takeAll receiver (before + min (n + 1) (rest.length + 1)) (rest.drop n)
          (b :: rest.take n ++ taken, result)
termination_by bytes.length
decreasing_by
  simp only [List.length_drop, List.length_cons]
  omega

/-- Send pieces one after another; the first that is not taken whole ends the sending. -/
def takePieces (receiver : Receiver) (before : Nat) : List Octets → Octets × Except String Unit
  | [] => ([], .ok ())
  | piece :: rest =>
      match receiver.takeAll before piece with
      | (taken, .error detail) => (taken, .error detail)
      | (taken, .ok ()) =>
          let (later, result) := takePieces receiver (before + piece.length) rest
          (taken ++ later, result)

/-- A receiver that takes every offer whole. -/
def everything : Receiver where
  answer _ offered := .takes offered
  flush := none

/-- A receiver with at most `chunk` octets an offer and `limit` octets in all.  When it can take
nothing it refuses with `onFull`, or takes nothing if that is absent. -/
def bounded (chunk limit : Option Nat) (onFull flush : Option String) : Receiver where
  answer before offered :=
    let room := match limit with
      | some most => min offered (most - before)
      | none => offered
    let portion := match chunk with
      | some most => min room most
      | none => room
    if portion = 0 then
      match onFull with
      | some detail => .refuses detail
      | none => .takes 0
    else .takes portion
  flush := flush

end Receiver

end TypeFixtures
