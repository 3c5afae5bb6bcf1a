import Mathlib.Data.List.Basic
import TypeFixtures.Proofs.Command.Run
import TypeFixtures.Proofs.Config.Reading
import TypeFixtures.Proofs.Receiver.Taking
import TypeFixtures.Proofs.Script.Layout

/-!
# Listings agree with scripts

A listing checks the catalog and builds the tables itself, and a script does so on its own.  Both
start from the same configuration: they fail together and with the same error, and where they do not
fail the tables that are listed are those that the script creates, one block each.
-/

namespace TypeFixtures

namespace Table

/-- The plain column of a table is the only one of its name, and has the type of the descriptor. -/
theorem simple_columns_build (d : Descriptor) (options : Options) :
    (build d options).columns.filter (fun column => column.name = "simple_t") =
      [⟨"simple_t", d.sqlType⟩] := by
  have hbase : (Column.base d.sqlType).filter (fun column => column.name = "simple_t") =
      [⟨"simple_t", d.sqlType⟩] := by
    simp [Column.base]
  have hlow : ∀ depth, (Column.lowCardinality d.sqlType depth).filter
      (fun column => column.name = "simple_t") = [] := by
    intro depth
    cases depth with
    | flat => simp [Column.lowCardinality]
    | nested => simp [Column.lowCardinality]
  rw [build, List.filter_append, hbase]
  split
  · rw [hlow, List.append_nil]
  · rw [List.filter_nil, List.append_nil]

/-- The mark of low-cardinality columns is at the end of their names, and of no other names. -/
theorem exists_low_column_iff (d : Descriptor) (options : Options) :
    (∃ column ∈ (build d options).columns, "_lc_t".toList <:+ column.name.toList) ↔
      (build d options).lowCardinality = true := by
  have hbase : ∀ column ∈ Column.base d.sqlType, ¬ "_lc_t".toList <:+ column.name.toList := by
    simp only [Column.base, List.forall_mem_cons]
    decide
  have hlow : ∀ depth, (⟨"simple_lc_t", SqlType.lowCardinality d.sqlType⟩ : Column) ∈
      Column.lowCardinality d.sqlType depth := by
    intro depth
    cases depth with
    | flat => exact List.mem_cons_self
    | nested => exact List.mem_cons_self
  simp only [build]
  constructor
  · rintro ⟨column, hcolumn, hname⟩
    rcases List.mem_append.mp hcolumn with hcolumn | hcolumn
    · exact absurd hname (hbase column hcolumn)
    · by_contra hnone
      rw [if_neg hnone] at hcolumn
      contradiction
  · intro hsupported
    refine ⟨⟨"simple_lc_t", SqlType.lowCardinality d.sqlType⟩, List.mem_append_right _ ?_, ?_⟩
    · rw [if_pos hsupported]
      exact hlow options.depth
    · show "_lc_t".toList <:+ "simple_lc_t".toList
      decide

end Table

variable {σ : Type} {files : FileSystem (StateM σ)} {directory : Option String} {state later : σ}
  {config : Config}

/-- A call that asks for nothing itself keeps the choices of the project. -/
theorem Generate.apply_none (catalog : Option String) (options : Options) :
    Generate.apply ⟨catalog, none, none, none, false⟩ options = options := rfl

namespace Listing

variable {catalog : Option String}

/-- What is listed of some tables. -/
def text (json : Bool) (tables : List Table) : String :=
  if json then (Json.array (tables.map Json.ofTable)).render ++ "\n"
  else String.join (tables.map line)

theorem join_pieces (json : Bool) (tables : List Table) :
    String.join (pieces json tables) = text json tables := by
  cases json with
  | false => rfl
  | true => simp [pieces, text, String.join]

/-- A listing of a valid catalog, where all of it is taken. -/
theorem run_everything_of_valid (json : Bool)
    (h : (Config.resolve files directory catalog).run.run state = (.ok config, later))
    (hvalid : config.catalog.validate = .ok ()) :
    (run files .everything ⟨catalog, json⟩ directory).run state =
      (⟨octets (text json (config.catalog.map fun d => Table.build d config.project.options)),
        .ok ()⟩, later) := by
  rw [run_of_valid ⟨catalog, json⟩ h hvalid]
  simp only [Receiver.takePieces_everything, ← octets_join, join_pieces]
  rfl

end Listing

/-- A script of a valid catalog that no output is named for, where all of it is taken. -/
theorem Generate.run_everything_of_valid (call : Generate)
    (h : (Config.resolve files directory call.catalog).run.run state = (.ok config, later))
    (hcall : call.output = none) (hconfig : config.output = none)
    (hvalid : config.catalog.validate = .ok ()) :
    (run files .everything call directory).run state =
      (⟨octets (Script.joined (Script.preamble (call.apply config.project.options))
        (Script.blocks config.catalog (call.apply config.project.options))), .ok ()⟩, later) := by
  rw [run_of_unnamed call h hcall hconfig, Script.send, Script.generate_of_validate hvalid]
  simp only [Receiver.takeAll_everything]
  rfl

theorem Generate.run_of_fault (call : Generate) {fault : CatalogFault} {out : Receiver}
    (h : (Config.resolve files directory call.catalog).run.run state = (.ok config, later))
    (hcall : call.output = none) (hconfig : config.output = none)
    (hfault : config.catalog.validate = .error fault) :
    (run files out call directory).run state =
      (⟨[], .error (CommandError.ofCatalog fault)⟩, later) := by
  rw [run_of_unnamed call h hcall hconfig, Script.send, Script.generate_of_fault hfault]
  rfl

/-- Where no output is named, a listing and a script end the same way: well exactly if there is a
configuration with a valid catalog, and otherwise with one error.  They tell the same tables in the
same order: what is listed are the tables of the configuration, and each block of the script is the
statements of one of them. -/
theorem Listing.run_agrees_with_generate (files : FileSystem (StateM σ)) (state : σ)
    (directory catalog : Option String) (json : Bool)
    (hquiet : ∀ config later,
      (Config.resolve files directory catalog).run.run state = (.ok config, later) →
        config.project.output = none) :
    let listed := ((Listing.run files .everything ⟨catalog, json⟩ directory).run state).1
    let made :=
      ((Generate.run files .everything ⟨catalog, none, none, none, false⟩ directory).run state).1
    listed.result = made.result ∧
      (listed.result = .ok () ↔ ∃ config later,
        (Config.resolve files directory catalog).run.run state = (.ok config, later) ∧
          config.catalog.validate = .ok ()) ∧
      ∀ config later,
        (Config.resolve files directory catalog).run.run state = (.ok config, later) →
        config.catalog.validate = .ok () →
        let options := config.project.options
        let tables := config.catalog.map fun d => Table.build d options
        listed.received = octets (text json tables) ∧
          made.received = octets (Script.joined (Script.preamble options)
            (tables.map fun table => table.statements options.engine)) ∧
          ∀ table ∈ tables,
            table.columns.filter (fun column => column.name = "simple_t") =
              [⟨"simple_t", table.descriptor.sqlType⟩] ∧
            ((∃ column ∈ table.columns, "_lc_t".toList <:+ column.name.toList) ↔
              table.lowCardinality = true) := by
  intro listed made
  let call : Generate := ⟨catalog, none, none, none, false⟩
  -- From here on both have the same configuration, or the same error.
  cases hresolve : (Config.resolve files directory catalog).run.run state with
  | mk result later =>
      cases result with
      | error error =>
          have hlisted : listed = ⟨[], .error error⟩ :=
            congrArg Prod.fst (run_of_unresolved ⟨catalog, json⟩ hresolve)
          have hmade : made = ⟨[], .error error⟩ :=
            congrArg Prod.fst (Generate.run_of_unresolved call hresolve)
          rw [hlisted, hmade]
          refine ⟨rfl, ⟨fun h => by contradiction, ?_⟩, fun _ _ h => by cases h⟩
          rintro ⟨_, _, h, -⟩
          cases h
      | ok config =>
          have houtput : config.output = none := by
            rw [Config.output_of_resolve hresolve, hquiet config later hresolve, Option.map_none]
          cases hvalidate : config.catalog.validate with
          | error fault =>
              have hlisted : listed = ⟨[], .error (CommandError.ofCatalog fault)⟩ :=
                congrArg Prod.fst (run_of_fault ⟨catalog, json⟩ hresolve hvalidate)
              have hmade : made = ⟨[], .error (CommandError.ofCatalog fault)⟩ :=
                congrArg Prod.fst
                  (Generate.run_of_fault call hresolve rfl houtput hvalidate)
              rw [hlisted, hmade]
              refine ⟨rfl, ⟨fun h => by contradiction, ?_⟩, ?_⟩
              · rintro ⟨_, _, h, hvalid⟩
                cases h
                rw [hvalidate] at hvalid
                contradiction
              · intro _ _ h hvalid
                cases h
                rw [hvalidate] at hvalid
                contradiction
          | ok _ =>
              have hlisted := congrArg Prod.fst
                (run_everything_of_valid json hresolve hvalidate)
              have hmade := congrArg Prod.fst
                (Generate.run_everything_of_valid call hresolve rfl houtput hvalidate)
              have hresult : listed.result = .ok () := congrArg Delivery.result hlisted
              refine ⟨hresult.trans (congrArg Delivery.result hmade).symm,
                ⟨fun _ => ⟨config, later, rfl, hvalidate⟩, fun _ => hresult⟩, ?_⟩
              intro _ _ h _
              cases h
              refine ⟨congrArg Delivery.received hlisted, ?_, ?_⟩
              · refine (congrArg Delivery.received hmade).trans ?_
                rw [Generate.apply_none, Script.blocks, List.map_map]
                rfl
              · intro table htable
                obtain ⟨d, -, rfl⟩ := List.mem_map.mp htable
                exact ⟨Table.simple_columns_build d _, Table.exists_low_column_iff d _⟩

/-- In a working directory with a project and a catalog of its own, both go well. -/
theorem Listing.run_agrees_with_generate_uuid :
    let project := ((FileTree.fresh "work").write "chgen-project.yml"
      (octets "name: p\nengine: Log()\n")).2
    let tree := (project.write "types.yml" (octets "- UUID\n")).2
    let listed :=
      ((Listing.run FileTree.system .everything ⟨some "types.yml", false⟩ none).run tree).1
    let made := ((Generate.run FileTree.system .everything
      ⟨some "types.yml", none, none, none, false⟩ none).run tree).1
    listed.result = .ok () ∧ made.result = .ok () ∧
      listed.received = octets "vertx_test_uuid\tUUID\tlow_cardinality=false\n" := by
  intro project tree listed made
  have hresolve : ((Config.resolve FileTree.system none (some "types.yml")).run.run tree).1 =
      .ok ⟨⟨"p", none, some "Log()", none, none, none, none⟩, [.bare "UUID"], none⟩ := by
    decide +kernel
  have hmade : made.result = .ok () := by
    decide +kernel
  have hquiet : ∀ config later,
      (Config.resolve FileTree.system none (some "types.yml")).run.run tree = (.ok config, later) →
        config.project.output = none := by
    intro config later h
    rw [h] at hresolve
    cases hresolve
    rfl
  obtain ⟨hresult, hwell, htables⟩ :=
    Listing.run_agrees_with_generate FileTree.system tree none (some "types.yml") false hquiet
  have hlisted : listed.result = .ok () := hresult.trans hmade
  obtain ⟨config, later, hrun, hvalid⟩ := hwell.mp hlisted
  have htold := (htables config later hrun hvalid).1
  rw [hrun] at hresolve
  cases hresolve
  refine ⟨hlisted, hmade, htold.trans ?_⟩
  decide +kernel

end TypeFixtures
