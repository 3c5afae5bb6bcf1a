import Mathlib.Data.List.Basic
import TypeFixtures.Proofs.Listing.Agreement
import TypeFixtures.Proofs.Receiver.Stopping

/-!
# Listings sent in pieces

A listing resolves its configuration and checks its catalog before the first piece is sent.  From
there on it can fail for its receiver only: what has arrived then is the listing up to the point at
which the receiver stopped.  The whole listing is what a receiver gets that takes every offer.

* `Streams` — what is known of a delivery of some octets, piece by piece;
* `streams_takePieces` — it holds of every way to cut the octets into pieces, for every receiver;
* `run_streams_listing` — a listing either fails before its first piece or is delivered so.
-/

namespace TypeFixtures.Listing

/-! ## Deliveries in pieces -/

/-- The end of a sending as the delivery of a listing. -/
def delivery (sent : Octets × Except String Unit) : Delivery CommandError Unit :=
  ⟨sent.1, sent.2.mapError fun detail => ⟨.generate, .cause detail⟩⟩

/-- What has come of sending some octets to a receiver. -/
structure Streams (out : Receiver) (bytes : Octets) (told : Delivery CommandError Unit) : Prop where
  /-- Octets arrive in order, and none of them twice. -/
  received_prefix : told.received <+: bytes
  result_eq_ok_iff : told.result = .ok () ↔ told.received = bytes
  /-- A failure is what the receiver reports of an offer of some of the octets that are left. -/
  stops_of_error : ∀ error, told.result = .error error → ∃ detail offered,
    error = ⟨.generate, .cause detail⟩ ∧ 0 < offered ∧
      told.received.length + offered ≤ bytes.length ∧ out.Stops told.received.length offered detail
  /-- With a limit on what is taken, the limit and the octets tell all. -/
  eq_upTo : ∀ limit detail, out.StopsAt limit detail →
    told = delivery (Receiver.upTo limit detail bytes)

theorem streams_takePieces (out : Receiver) (pieces : List Octets) :
    Streams out pieces.flatten (delivery (out.takePieces 0 pieces)) := by
  have hlimit : ∀ limit detail, out.StopsAt limit detail →
      delivery (out.takePieces 0 pieces) =
        delivery (Receiver.upTo limit detail pieces.flatten) := by
    intro limit detail h
    rw [h.takePieces (Nat.zero_le limit), Nat.sub_zero]
  cases hresult : (out.takePieces 0 pieces).2 with
  | ok _ =>
      have hwhole : delivery (out.takePieces 0 pieces) = ⟨pieces.flatten, .ok ()⟩ := by
        rw [delivery, Receiver.takePieces_of_ok hresult, hresult]
        rfl
      rw [hwhole] at hlimit ⊢
      exact ⟨List.prefix_refl _, ⟨fun _ => rfl, fun _ => rfl⟩, nofun, hlimit⟩
  | error detail =>
      obtain ⟨rest, offered, hparts, hoffer, hwithin, hstops⟩ :=
        Receiver.takePieces_of_error hresult
      rw [Nat.zero_add] at hstops
      have hfails : delivery (out.takePieces 0 pieces) =
          ⟨(out.takePieces 0 pieces).1, .error ⟨.generate, .cause detail⟩⟩ := by
        rw [delivery, hresult]
        rfl
      have hlength := congrArg List.length hparts
      rw [List.length_append] at hlength
      rw [hfails] at hlimit ⊢
      refine ⟨⟨rest, hparts.symm⟩, ⟨nofun, fun hall => ?_⟩, ?_, hlimit⟩
      · -- What is left is not empty, so not all has arrived.
        have hnone : (out.takePieces 0 pieces).1.length = pieces.flatten.length :=
          congrArg List.length hall
        omega
      · rintro error ⟨rfl⟩
        refine ⟨detail, offered, rfl, hoffer, ?_, hstops⟩
        simp only
        omega

/-! ## Listings -/

variable {σ : Type}

/-- A listing fails in the same way for every receiver before its first piece, or sends the pieces of
a valid catalog to it. -/
theorem run_cases (files : FileSystem (StateM σ)) (state : σ) (call : Listing)
    (directory : Option String) :
    (∃ error, ∀ out, ((run files out call directory).run state).1 = ⟨[], .error error⟩) ∨
    ∃ config later,
      (Config.resolve files directory call.catalog).run.run state = (.ok config, later) ∧
      config.catalog.validate = .ok () ∧
      ∀ out, ((run files out call directory).run state).1 =
        delivery (out.takePieces 0 ((pieces call.json
          (config.catalog.map fun d => Table.build d config.project.options)).map octets)) := by
  cases hresolve : (Config.resolve files directory call.catalog).run.run state with
  | mk result later =>
      cases result with
      | error error =>
          exact .inl ⟨error, fun _ => congrArg Prod.fst (run_of_unresolved call hresolve)⟩
      | ok config =>
          cases hvalidate : config.catalog.validate with
          | error fault =>
              exact .inl ⟨_, fun _ => congrArg Prod.fst (run_of_fault call hresolve hvalidate)⟩
          | ok _ =>
              exact .inr ⟨config, later, rfl, hvalidate,
                fun _ => congrArg Prod.fst (run_of_valid call hresolve hvalidate)⟩

/-- A listing fails before its first piece, whatever the receiver is, or is sent to it up to the point
at which it stops.  It is sent exactly where there is a configuration with a valid catalog, and then
it is the lines of the tables or their JSON.  What is known of the delivery does not depend on the
pieces that these are cut into. -/
theorem run_streams_listing (files : FileSystem (StateM σ)) (state : σ) (out : Receiver)
    (call : Listing) (directory : Option String) :
    let whole := ((run files .everything call directory).run state).1
    let told := ((run files out call directory).run state).1
    (whole.result = .ok () ↔ ∃ config later,
      (Config.resolve files directory call.catalog).run.run state = (.ok config, later) ∧
        config.catalog.validate = .ok () ∧
        whole.received = octets (text call.json
          (config.catalog.map fun d => Table.build d config.project.options))) ∧
    (∀ error, whole.result = .error error → whole.received = [] ∧ told = ⟨[], .error error⟩) ∧
    (whole.result = .ok () → Streams out whole.received told ∧
      ∀ fragments : List Octets, fragments.flatten = whole.received →
        Streams out whole.received (delivery (out.takePieces 0 fragments))) := by
  intro whole told
  have hvalidWhole : ∀ config later,
      (Config.resolve files directory call.catalog).run.run state = (.ok config, later) →
      config.catalog.validate = .ok () →
      whole = ⟨octets (text call.json
        (config.catalog.map fun d => Table.build d config.project.options)), .ok ()⟩ :=
    fun _ _ hresolve hvalid =>
      congrArg Prod.fst (run_everything_of_valid call.json hresolve hvalid)
  have hsends : ∀ fragments : List Octets, fragments.flatten = whole.received →
      Streams out whole.received (delivery (out.takePieces 0 fragments)) := by
    intro fragments hfragments
    rw [← hfragments]
    exact streams_takePieces out fragments
  rcases run_cases files state call directory with
    ⟨error, hfails⟩ | ⟨config, later, hresolve, hvalid, htold⟩
  · have hwhole : whole = ⟨[], .error error⟩ := hfails .everything
    refine ⟨⟨fun hok => ?_, ?_⟩, fun other hother => ?_, fun hok => ?_⟩
    · rw [hwhole] at hok
      cases hok
    · rintro ⟨config, later, hresolve, hvalid, -⟩
      rw [hvalidWhole config later hresolve hvalid]
    · rw [hwhole] at hother ⊢
      cases hother
      exact ⟨rfl, hfails out⟩
    · rw [hwhole] at hok
      cases hok
  · have hwhole := hvalidWhole config later hresolve hvalid
    have hreceived := congrArg Delivery.received hwhole
    have hresult : whole.result = .ok () := congrArg Delivery.result hwhole
    refine ⟨⟨fun _ => ⟨config, later, hresolve, hvalid, hreceived⟩, fun _ => hresult⟩,
      fun error herror => ?_, fun _ => ⟨?_, hsends⟩⟩
    · rw [hresult] at herror
      cases herror
    · have hpieces := hsends _ ((octets_join _).symm.trans
        ((congrArg octets (join_pieces call.json _)).trans hreceived.symm))
      rwa [← htold out] at hpieces

/-- A receiver with room for seven octets, two at a time, has got the first seven of a listing. -/
theorem run_streams_listing_bounded :
    let tree := ((FileTree.fresh "work").write "types.yml" (octets "- UUID\n")).2
    let out := Receiver.bounded (some 2) (some 7) none none
    ((run FileTree.system out ⟨some "types.yml", false⟩ none).run tree).1 =
      ⟨octets "vertx_t", .error ⟨.generate, .cause "failed to write whole buffer"⟩⟩ := by
  intro tree out
  let call : Listing := ⟨some "types.yml", false⟩
  have hwhole : ((run FileTree.system .everything call none).run tree).1.received =
      octets "vertx_test_uuid\tUUID\tlow_cardinality=false\n" := by
    decide +kernel
  have hresult : ((run FileTree.system .everything call none).run tree).1.result = .ok () := by
    decide +kernel
  have hlimit : out.StopsAt 7 Receiver.wholeBufferText :=
    Receiver.stopsAt_bounded (by decide) 7 none none
  obtain ⟨-, -, hstreams⟩ := run_streams_listing FileTree.system tree out call none
  rw [(hstreams hresult).1.eq_upTo 7 _ hlimit, hwhole]
  have hseven : (octets "vertx_test_uuid\tUUID\tlow_cardinality=false\n").take 7 =
      octets "vertx_t" := by
    decide +kernel
  have hlong : ¬ (octets "vertx_test_uuid\tUUID\tlow_cardinality=false\n").length ≤ 7 := by
    decide +kernel
  rw [delivery, Receiver.upTo, hseven, if_neg hlong]
  rfl

end TypeFixtures.Listing
