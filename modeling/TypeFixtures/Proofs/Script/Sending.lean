import Mathlib.Data.List.Basic
import TypeFixtures.Proofs.Receiver.Stopping
import TypeFixtures.Proofs.Script.Layout

/-!
# Sending scripts

A script is made whole before any of it is sent.  So of a catalog that is rejected nothing is sent,
and of any other one the receiver has got the script up to a point.  How the sending ends depends on
that point: a receiver that has got all of it may still fail to flush it, and one that has not has
stopped there.
-/

namespace TypeFixtures.Script

variable {receiver : Receiver} {catalog : Catalog} {options : Options} {script detail : String}
  {sent : Delivery ScriptError Nat}

theorem send_of_fault {fault : CatalogFault} (hfault : catalog.validate = .error fault) :
    send receiver catalog options = ⟨[], .error (.catalog fault)⟩ := by
  rw [send, generate_of_fault hfault]

/-- A receiver that stops ends the sending, and is not flushed. -/
theorem send_of_stopped (hscript : generate catalog options = .ok script)
    (htaken : (receiver.takeAll 0 (octets script)).2 = .error detail) :
    send receiver catalog options =
      ⟨(receiver.takeAll 0 (octets script)).1, .error (.write detail)⟩ := by
  rw [send, hscript]
  simp only
  cases hends : receiver.takeAll 0 (octets script) with
  | mk taken result =>
      rw [hends] at htaken
      cases htaken
      rfl

theorem send_of_unflushed (hscript : generate catalog options = .ok script)
    (htaken : (receiver.takeAll 0 (octets script)).2 = .ok ())
    (hflush : receiver.flush = some detail) :
    send receiver catalog options = ⟨octets script, .error (.write detail)⟩ := by
  have hwhole : receiver.takeAll 0 (octets script) = (octets script, .ok ()) :=
    Prod.ext (Receiver.takeAll_of_ok htaken) htaken
  rw [send, hscript]
  simp only [hwhole, hflush]

theorem send_of_flushed (hscript : generate catalog options = .ok script)
    (htaken : (receiver.takeAll 0 (octets script)).2 = .ok ()) (hflush : receiver.flush = none) :
    send receiver catalog options = ⟨octets script, .ok catalog.length⟩ := by
  have hwhole : receiver.takeAll 0 (octets script) = (octets script, .ok ()) :=
    Prod.ext (Receiver.takeAll_of_ok htaken) htaken
  rw [send, hscript]
  simp only [hwhole, hflush]

/-- Whatever a flush reports, what has arrived are the octets that were taken. -/
theorem received_send (hscript : generate catalog options = .ok script) (receiver : Receiver) :
    (send receiver catalog options).received = (receiver.takeAll 0 (octets script)).1 := by
  cases htaken : (receiver.takeAll 0 (octets script)).2 with
  | error detail => rw [send_of_stopped hscript htaken]
  | ok _ =>
      rw [Receiver.takeAll_of_ok htaken]
      cases hflush : receiver.flush with
      | some detail => rw [send_of_unflushed hscript htaken hflush]
      | none => rw [send_of_flushed hscript htaken hflush]

/-! ## The three ends of a sending -/

/-- How the sending of the octets of a script ends: the receiver stops at an offer of all that is
left, or it takes all and cannot flush it, or it takes and flushes all. -/
inductive Ends (receiver : Receiver) (catalog : Catalog) (bytes : Octets) :
    Delivery ScriptError Nat → Prop
  | stopped {taken rest : Octets} {detail : String} (parts : bytes = taken ++ rest)
      (left : rest ≠ []) (stops : receiver.Stops taken.length rest.length detail) :
      Ends receiver catalog bytes ⟨taken, .error (.write detail)⟩
  | unflushed {detail : String} (flush : receiver.flush = some detail) :
      Ends receiver catalog bytes ⟨bytes, .error (.write detail)⟩
  | flushed (flush : receiver.flush = none) :
      Ends receiver catalog bytes ⟨bytes, .ok catalog.length⟩

theorem ends_send (hscript : generate catalog options = .ok script) (receiver : Receiver) :
    Ends receiver catalog (octets script) (send receiver catalog options) := by
  cases htaken : (receiver.takeAll 0 (octets script)).2 with
  | error detail =>
      obtain ⟨rest, hparts, hrest, hstops⟩ := Receiver.takeAll_of_error htaken
      rw [Nat.zero_add] at hstops
      rw [send_of_stopped hscript htaken]
      exact .stopped hparts hrest hstops
  | ok _ =>
      cases hflush : receiver.flush with
      | some detail =>
          rw [send_of_unflushed hscript htaken hflush]
          exact .unflushed hflush
      | none =>
          rw [send_of_flushed hscript htaken hflush]
          exact .flushed hflush

namespace Ends

variable {bytes : Octets}

theorem received_prefix (h : Ends receiver catalog bytes sent) : sent.received <+: bytes := by
  cases h with
  | stopped parts left stops => exact ⟨_, parts.symm⟩
  | unflushed flush => exact List.prefix_refl _
  | flushed flush => exact List.prefix_refl _

/-- Before the octets that are left, not all have arrived. -/
theorem ne_of_left {taken rest : Octets} (parts : bytes = taken ++ rest) (left : rest ≠ []) :
    taken ≠ bytes := by
  intro hall
  rw [parts] at hall
  exact left (List.append_right_eq_self.mp hall.symm)

theorem result_eq_ok_iff (h : Ends receiver catalog bytes sent) (count : Nat) :
    sent.result = .ok count ↔
      sent.received = bytes ∧ receiver.flush = none ∧ count = catalog.length := by
  cases h with
  | stopped parts left stops => simp [ne_of_left parts left]
  | unflushed flush => simp [flush]
  | flushed flush => simp [flush, eq_comm]

theorem result_eq_error_iff (h : Ends receiver catalog bytes sent) (error : ScriptError) :
    sent.result = .error error ↔ ∃ detail, error = .write detail ∧
      ((sent.received = bytes ∧ receiver.flush = some detail) ∨
        (sent.received ≠ bytes ∧
          receiver.Stops sent.received.length (bytes.length - sent.received.length) detail)) := by
  cases h with
  | @stopped taken rest detail parts left stops =>
      have hne := ne_of_left parts left
      have hlength : bytes.length - taken.length = rest.length := by
        rw [parts, List.length_append, Nat.add_sub_cancel_left]
      simp only [hlength, hne, ne_eq, not_false_eq_true, true_and, false_and, false_or,
        Except.error.injEq]
      constructor
      · rintro rfl
        exact ⟨detail, rfl, stops⟩
      · rintro ⟨other, rfl, hother⟩
        rw [stops.unique hother]
  | unflushed flush => simp [flush, eq_comm]
  | flushed flush => simp [flush]

end Ends

/-- A catalog that is rejected ends a sending with its fault, and nothing is sent.  Of any other one
the receiver has got the script up to a point, each octet once.  The sending goes well exactly if that
is all of the script and it is flushed, and the value is the number of tables.  It fails exactly with
what the receiver reports: of its flush if it has got all, and otherwise of an offer of all that is
left, at which it stopped.  A receiver that stops at a limit has got the script up to its limit. -/
theorem send_delivers_up_to_stop (receiver : Receiver) (catalog : Catalog) (options : Options) :
    let sent := send receiver catalog options
    (∀ fault, catalog.validate = .error fault → sent = ⟨[], .error (.catalog fault)⟩) ∧
    (catalog.validate = .ok () → ∃ script, generate catalog options = .ok script ∧
      sent.received <+: octets script ∧
      (∀ count, sent.result = .ok count ↔
        sent.received = octets script ∧ receiver.flush = none ∧ count = catalog.length) ∧
      (∀ error, sent.result = .error error ↔ ∃ detail, error = .write detail ∧
        ((sent.received = octets script ∧ receiver.flush = some detail) ∨
          (sent.received ≠ octets script ∧
            receiver.Stops sent.received.length
              ((octets script).length - sent.received.length) detail))) ∧
      ∀ limit detail, receiver.StopsAt limit detail →
        sent.received = (octets script).take limit) := by
  intro sent
  refine ⟨fun fault hfault => send_of_fault hfault, fun hvalid => ?_⟩
  have hscript := generate_of_validate hvalid options
  have hends : Ends receiver catalog _ sent := ends_send hscript receiver
  refine ⟨_, hscript, hends.received_prefix, hends.result_eq_ok_iff, hends.result_eq_error_iff, ?_⟩
  intro limit detail hlimit
  have hsent : sent.received = _ := received_send hscript receiver
  rw [hsent, hlimit.takeAll (Nat.zero_le limit)]
  rfl

/-- A receiver with room for five octets, three at a time, has got the first five of a script. -/
theorem send_delivers_up_to_stop_bounded :
    let receiver := Receiver.bounded (some 3) (some 5) (some "no space left") none
    let sent := send receiver [.bare "UUID"] Options.standard
    sent.received = octets "SET a" ∧ sent.result = .error (.write "no space left") := by
  intro receiver sent
  have hvalid : Catalog.validate [.bare "UUID"] = .ok () := by decide +kernel
  have hlimit : receiver.StopsAt 5 "no space left" :=
    Receiver.stopsAt_bounded (by decide) 5 (some "no space left") none
  obtain ⟨-, hdelivers⟩ := send_delivers_up_to_stop receiver [.bare "UUID"] Options.standard
  obtain ⟨script, hscript, -, -, herror, htake⟩ := hdelivers hvalid
  have hstart : (generate [.bare "UUID"] Options.standard).toOption.map
      (fun script => ((octets script).take 5, decide (5 < (octets script).length))) =
        some (octets "SET a", true) := by
    decide +kernel
  rw [hscript] at hstart
  obtain ⟨hfive, hlonger⟩ := Prod.mk.inj (Option.some.inj hstart)
  have hreceived : sent.received = octets "SET a" := (htake 5 _ hlimit).trans hfive
  have hmore : 5 < (octets script).length := of_decide_eq_true hlonger
  have hlength : sent.received.length = 5 := by
    rw [hreceived]
    decide +kernel
  refine ⟨hreceived, (herror _).mpr ⟨_, rfl, Or.inr ⟨?_, ?_⟩⟩⟩
  · intro hall
    rw [← hall, hlength] at hmore
    exact absurd hmore (Nat.lt_irrefl 5)
  · rw [hlength]
    exact hlimit.stops _ (Nat.sub_pos_of_lt hmore)

end TypeFixtures.Script
