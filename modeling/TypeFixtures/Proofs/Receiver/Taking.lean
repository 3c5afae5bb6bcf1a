import Mathlib.Data.List.Basic
import TypeFixtures.Receiver

/-!
# What receivers take

What a receiver has taken when the sending ends well is what was sent, and a receiver that takes
every offer whole ends every sending well.
-/

namespace TypeFixtures

theorem octets_append (s t : String) : octets (s ++ t) = octets s ++ octets t := by
  simp [octets]

theorem octets_join (texts : List String) :
    octets (String.join texts) = (texts.map octets).flatten := by
  induction texts with
  | nil => simp [octets]
  | cons text rest ih => simp [octets_append, ih]

namespace Receiver

theorem takeAll_cons (receiver : Receiver) (before : Nat) (b : UInt8) (rest : Octets) :
    receiver.takeAll before (b :: rest) =
      match receiver.answer before (rest.length + 1) with
      | .refuses detail => ([], .error detail)
      | .takes 0 => ([], .error wholeBufferText)
      | .takes (n + 1) =>
          let later := receiver.takeAll (before + min (n + 1) (rest.length + 1)) (rest.drop n)
          (b :: rest.take n ++ later.1, later.2) :=
  takeAll.eq_def receiver before (b :: rest)

/-- A sending that ends well has delivered all octets. -/
theorem takeAll_of_ok {receiver : Receiver} {before : Nat} {bytes : Octets}
    (h : (receiver.takeAll before bytes).2 = .ok ()) :
    (receiver.takeAll before bytes).1 = bytes := by
  match bytes with
  | [] => simp [takeAll]
  | b :: rest =>
      rw [takeAll_cons] at h ⊢
      cases hanswer : receiver.answer before (rest.length + 1) with
      | refuses detail => simp [hanswer] at h
      | takes count =>
          cases count with
          | zero => simp [hanswer] at h
          | succ n =>
              -- What is left is offered again, and has arrived whole by induction.
              simp only [hanswer] at h ⊢
              rw [takeAll_of_ok h, List.cons_append, List.take_append_drop]
termination_by bytes.length
decreasing_by
  simp only [List.length_drop, List.length_cons]
  omega

theorem takeAll_everything (before : Nat) (bytes : Octets) :
    everything.takeAll before bytes = (bytes, .ok ()) := by
  cases bytes with
  | nil => simp [takeAll]
  | cons b rest => simp [takeAll_cons, everything, takeAll]

theorem takePieces_everything (before : Nat) (pieces : List Octets) :
    everything.takePieces before pieces = (pieces.flatten, .ok ()) := by
  induction pieces generalizing before with
  | nil => rfl
  | cons piece rest ih => simp [takePieces, takeAll_everything, ih]

end Receiver

end TypeFixtures
