import Mathlib.Data.List.Basic
import TypeFixtures.Proofs.Receiver.Taking

/-!
# Where receivers stop

A sending ends before its last octet only where the receiver stops, that is where it refuses an offer
or takes nothing of it.  Up to there all octets have arrived, each of them once and in order, whatever
portions the receiver took them in.

No two offers of a sending find the same number of octets taken, so the answers that a receiver gives
in the course of it may be any sequence.  Many receivers count what they take and stop once they have
their fill.  Where a sending to such a receiver ends can be told from the octets alone, and how they
are cut into pieces makes no difference.
-/

namespace TypeFixtures.Receiver

variable {receiver : Receiver} {before limit : Nat} {bytes piece : Octets} {pieces : List Octets}
  {detail : String}

/-- A receiver takes nothing of an offer, and `detail` is what is reported of it. -/
def Stops (receiver : Receiver) (before offered : Nat) (detail : String) : Prop :=
  receiver.answer before offered = .refuses detail ∨
    receiver.answer before offered = .takes 0 ∧ detail = wholeBufferText

theorem Stops.unique {offered : Nat} {other : String} (h : receiver.Stops before offered detail)
    (hother : receiver.Stops before offered other) : other = detail := by
  rcases h with h | ⟨h, rfl⟩
  · rcases hother with hother | ⟨hother, -⟩
    · rw [h] at hother
      cases hother
      rfl
    · rw [h] at hother
      cases hother
  · rcases hother with hother | ⟨-, rfl⟩
    · rw [h] at hother
      cases hother
    · rfl

/-! ## One piece after another -/

theorem takeAll_of_stops {b : UInt8} {rest : Octets}
    (h : receiver.Stops before (rest.length + 1) detail) :
    receiver.takeAll before (b :: rest) = ([], .error detail) := by
  rcases h with h | ⟨h, rfl⟩ <;> simp [takeAll_cons, h]

/-- What is left of an offer is offered again. -/
theorem takeAll_of_takes {count : Nat} (hanswer : receiver.answer before bytes.length = .takes count)
    (hcount : 0 < count) (hoffer : bytes ≠ []) :
    receiver.takeAll before bytes =
      (bytes.take count ++
          (receiver.takeAll (before + (bytes.take count).length) (bytes.drop count)).1,
        (receiver.takeAll (before + (bytes.take count).length) (bytes.drop count)).2) := by
  cases bytes with
  | nil => contradiction
  | cons b rest =>
      cases count with
      | zero => contradiction
      | succ n =>
          rw [List.length_cons] at hanswer
          rw [takeAll_cons, hanswer]
          simp only [List.take_succ_cons, List.drop_succ_cons, List.length_cons, List.length_take,
            Nat.add_min_add_right]

/-- An offer is stopped at, or some of it is taken. -/
theorem stops_or_takes (receiver : Receiver) (before offered : Nat) :
    (∃ detail, receiver.Stops before offered detail) ∨
      ∃ count, 0 < count ∧ receiver.answer before offered = .takes count := by
  cases hanswer : receiver.answer before offered with
  | refuses detail => exact Or.inl ⟨detail, Or.inl hanswer⟩
  | takes count =>
      rcases Nat.eq_zero_or_pos count with rfl | hcount
      · exact Or.inl ⟨wholeBufferText, Or.inr ⟨hanswer, rfl⟩⟩
      · exact Or.inr ⟨count, hcount, rfl⟩

/-- A sending that fails has come to an offer of all that is left, at which the receiver stops. -/
theorem takeAll_of_error {before : Nat} {bytes : Octets}
    (h : (receiver.takeAll before bytes).2 = .error detail) :
    ∃ rest, bytes = (receiver.takeAll before bytes).1 ++ rest ∧ rest ≠ [] ∧
      receiver.Stops (before + (receiver.takeAll before bytes).1.length) rest.length detail := by
  match bytes with
  | [] => simp [takeAll] at h
  | b :: rest =>
      rcases stops_or_takes receiver before (b :: rest).length with
        ⟨other, hstops⟩ | ⟨count, hcount, hanswer⟩
      · rw [takeAll_of_stops hstops] at h ⊢
        cases h
        exact ⟨b :: rest, rfl, List.cons_ne_nil b rest, hstops⟩
      · rw [takeAll_of_takes hanswer hcount (List.cons_ne_nil b rest)] at h ⊢
        obtain ⟨left, hparts, hleft, hstops⟩ := takeAll_of_error h
        refine ⟨left, ?_, hleft, ?_⟩
        · rw [List.append_assoc, ← hparts, List.take_append_drop]
        · rwa [List.length_append, ← Nat.add_assoc]
termination_by bytes.length
decreasing_by
  simp only [List.length_drop, List.length_cons]
  omega

theorem takePieces_cons_of_ok (h : (receiver.takeAll before piece).2 = .ok ()) :
    receiver.takePieces before (piece :: pieces) =
      (piece ++ (receiver.takePieces (before + piece.length) pieces).1,
        (receiver.takePieces (before + piece.length) pieces).2) := by
  have htaken := takeAll_of_ok h
  rw [takePieces]
  cases hsent : receiver.takeAll before piece with
  | mk taken result =>
      rw [hsent] at h htaken
      cases h
      cases htaken
      rfl

/-- Nothing is sent after a piece that was not taken whole. -/
theorem takePieces_cons_of_error (h : (receiver.takeAll before piece).2 = .error detail) :
    receiver.takePieces before (piece :: pieces) =
      ((receiver.takeAll before piece).1, .error detail) := by
  rw [takePieces]
  cases hsent : receiver.takeAll before piece with
  | mk taken result =>
      rw [hsent] at h
      cases h
      rfl

theorem takePieces_of_ok (h : (receiver.takePieces before pieces).2 = .ok ()) :
    (receiver.takePieces before pieces).1 = pieces.flatten := by
  induction pieces generalizing before with
  | nil => rfl
  | cons piece rest ih =>
      cases hpiece : (receiver.takeAll before piece).2 with
      | error detail =>
          rw [takePieces_cons_of_error hpiece] at h
          cases h
      | ok _ =>
          rw [takePieces_cons_of_ok hpiece] at h ⊢
          rw [ih h, List.flatten_cons]

/-- A sending of pieces that fails has come to an offer of some of what is left, at which the receiver
stops. -/
theorem takePieces_of_error (h : (receiver.takePieces before pieces).2 = .error detail) :
    ∃ rest offered, pieces.flatten = (receiver.takePieces before pieces).1 ++ rest ∧
      0 < offered ∧ offered ≤ rest.length ∧
      receiver.Stops (before + (receiver.takePieces before pieces).1.length) offered detail := by
  induction pieces generalizing before with
  | nil => cases h
  | cons piece later ih =>
      cases hpiece : (receiver.takeAll before piece).2 with
      | error other =>
          rw [takePieces_cons_of_error hpiece] at h ⊢
          cases h
          obtain ⟨rest, hparts, hrest, hstops⟩ := takeAll_of_error hpiece
          refine ⟨rest ++ later.flatten, rest.length, ?_, List.length_pos_iff.mpr hrest, ?_, hstops⟩
          · rw [List.flatten_cons, ← List.append_assoc, ← hparts]
          · rw [List.length_append]
            omega
      | ok _ =>
          rw [takePieces_cons_of_ok hpiece] at h ⊢
          obtain ⟨rest, offered, hparts, hoffer, hwithin, hstops⟩ := ih h
          refine ⟨rest, offered, ?_, hoffer, hwithin, ?_⟩
          · rw [List.flatten_cons, hparts, List.append_assoc]
          · rwa [List.length_append, ← Nat.add_assoc]

/-! ## Receivers with a limit -/

/-- A receiver takes something of every offer, in portions of any size, until it has `limit` octets,
and stops then. -/
structure StopsAt (receiver : Receiver) (limit : Nat) (detail : String) : Prop where
  takes : ∀ before offered, before < limit → 0 < offered →
    ∃ count, 0 < count ∧ count ≤ offered ∧ before + count ≤ limit ∧
      receiver.answer before offered = .takes count
  stops : ∀ offered, 0 < offered → receiver.Stops limit offered detail

/-- The end of a sending to a receiver with a limit. -/
def upTo (limit : Nat) (detail : String) (bytes : Octets) : Octets × Except String Unit :=
  (bytes.take limit, if bytes.length ≤ limit then .ok () else .error detail)

theorem upTo_of_le (h : bytes.length ≤ limit) : upTo limit detail bytes = (bytes, .ok ()) := by
  rw [upTo, List.take_of_length_le h, if_pos h]

/-- Octets that fit are taken, and the others find less room. -/
theorem upTo_append (h : bytes.length ≤ limit) (rest : Octets) :
    upTo limit detail (bytes ++ rest) =
      (bytes ++ (upTo (limit - bytes.length) detail rest).1,
        (upTo (limit - bytes.length) detail rest).2) := by
  have hfits : (bytes ++ rest).length ≤ limit ↔ rest.length ≤ limit - bytes.length := by
    rw [List.length_append]
    omega
  simp only [upTo, List.take_append, List.take_of_length_le h, hfits]

/-- Where octets do not fit, nothing of what comes after them is taken. -/
theorem upTo_append_of_lt (h : limit < bytes.length) (rest : Octets) :
    upTo limit detail (bytes ++ rest) = upTo limit detail bytes := by
  have htake : (bytes ++ rest).take limit = bytes.take limit := by
    rw [List.take_append_of_le_length (by omega)]
  have hlong : ¬ (bytes ++ rest).length ≤ limit := by
    rw [List.length_append]
    omega
  rw [upTo, upTo, htake, if_neg hlong, if_neg (by omega)]

theorem StopsAt.takeAll (h : receiver.StopsAt limit detail) {before : Nat}
    (hbefore : before ≤ limit) (bytes : Octets) :
    receiver.takeAll before bytes = upTo (limit - before) detail bytes := by
  match bytes with
  | [] => simp [Receiver.takeAll, upTo]
  | b :: rest =>
      rcases Nat.lt_or_eq_of_le hbefore with hroom | rfl
      · obtain ⟨count, hcount, hoffer, hlimit, hanswer⟩ :=
          h.takes before (b :: rest).length hroom (Nat.succ_pos _)
        have hportion : ((b :: rest).take count).length = count :=
          List.length_take_of_le hoffer
        -- What is left is offered to a receiver with as much less room.
        have hleft := h.takeAll hlimit ((b :: rest).drop count)
        have hroomLeft : limit - (before + count) = limit - before - count := by omega
        rw [takeAll_of_takes hanswer hcount (List.cons_ne_nil b rest), hportion, hleft, hroomLeft]
        have hfits : ((b :: rest).take count).length ≤ limit - before := by omega
        have hparts : upTo (limit - before) detail _ = _ :=
          upTo_append hfits ((b :: rest).drop count)
        rw [List.take_append_drop, hportion] at hparts
        exact hparts.symm
      · rw [takeAll_of_stops (h.stops (rest.length + 1) (Nat.succ_pos _)), Nat.sub_self]
        rfl
termination_by bytes.length
decreasing_by
  simp only [List.length_drop, List.length_cons]
  omega

/-- However octets are cut into pieces, a receiver with a limit takes them up to its limit. -/
theorem StopsAt.takePieces (h : receiver.StopsAt limit detail) (hbefore : before ≤ limit)
    (pieces : List Octets) :
    receiver.takePieces before pieces = upTo (limit - before) detail pieces.flatten := by
  induction pieces generalizing before with
  | nil => simp [Receiver.takePieces, upTo]
  | cons piece rest ih =>
      have hpiece := h.takeAll hbefore piece
      rw [List.flatten_cons]
      by_cases hfits : piece.length ≤ limit - before
      · have hroomLeft : limit - (before + piece.length) = limit - before - piece.length := by omega
        rw [upTo_of_le hfits] at hpiece
        rw [takePieces_cons_of_ok (congrArg Prod.snd hpiece), ih (by omega), hroomLeft,
          upTo_append hfits]
      · have hresult : (upTo (limit - before) detail piece).2 = .error detail := if_neg hfits
        rw [takePieces_cons_of_error (by rw [hpiece, hresult]), hpiece,
          upTo_append_of_lt (by omega)]
        exact Prod.ext rfl hresult.symm

/-- A receiver that is bounded in all stops at its bound, if it takes anything of an offer. -/
theorem stopsAt_bounded {chunk : Option Nat} (hchunk : chunk ≠ some 0) (limit : Nat)
    (onFull flush : Option String) :
    (bounded chunk (some limit) onFull flush).StopsAt limit (onFull.getD wholeBufferText) where
  takes before offered hroom hoffer := by
    cases chunk with
    | none =>
        refine ⟨min offered (limit - before), by omega, by omega, by omega, ?_⟩
        have hpositive : min offered (limit - before) ≠ 0 := by omega
        simp only [bounded]
        rw [if_neg hpositive]
    | some most =>
        have hmost : most ≠ 0 := fun hzero => hchunk (congrArg some hzero)
        refine ⟨min (min offered (limit - before)) most, by omega, by omega, by omega, ?_⟩
        have hpositive : min (min offered (limit - before)) most ≠ 0 := by omega
        simp only [bounded]
        rw [if_neg hpositive]
  stops offered hoffer := by
    cases chunk <;> cases onFull <;> simp [bounded, Stops]

end TypeFixtures.Receiver
