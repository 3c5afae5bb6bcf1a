import Mathlib.Data.List.Basic
import TypeFixtures.Proofs.Json.RoundTrip
import TypeFixtures.Proofs.Listing.Streaming

/-!
# Listings as JSON

A listing as JSON is one value and the end of its line.  A reader of JSON finds an array in it, and
in the array the tables of the catalog in their order, whatever characters their texts have.  What
belongs to a table is found by the names of the fields, and a descriptor is told by its shape.

* `Table.ofJson?` — the table that a value describes;
* `Table.ofJson?_value` — each table is described by what is written for it;
* `Listing.run_json_decodes` — what arrives of a listing that goes well.
-/

namespace TypeFixtures

/-! ## Tables as they are read -/

namespace Json.Value

/-- The content of a field of an object.  A field that stands there twice has none, since readers do
not agree on it. -/
def field? (name : String) : Value → Option Value
  | object fields =>
      match fields.filter fun field => field.1 = name with
      | [(_, content)] => some content
      | _ => none
  | _ => none

/-- A text. -/
def text? : Value → Option String
  | text value => some value
  | _ => none

/-- A truth value. -/
def bool? : Value → Option Bool
  | bool value => some value
  | _ => none

/-- The items of an array. -/
def items? : Value → Option (List Value)
  | array items => some items
  | _ => none

/-- A field that is a text. -/
def textField? (name : String) (v : Value) : Option String := do
  (← v.field? name).text?

end Json.Value

open Json (Value)

/-- The descriptor that a value describes: a text is a bare name, and an object has a table and a
type. -/
def Descriptor.ofJson? : Value → Option Descriptor
  | .text name => some (.bare name)
  | v => do some (.named (← v.textField? "table") (← v.textField? "type"))

/-- The column that a value describes. -/
def Column.ofJson? (v : Value) : Option Column := do
  some ⟨← v.textField? "name", ← v.textField? "sql_type"⟩

/-- The table that a value describes. -/
def Table.ofJson? (v : Value) : Option Table := do
  let name ← v.textField? "name"
  let descriptor ← Descriptor.ofJson? (← v.field? "descriptor")
  let lowCardinality ← (← v.field? "low_cardinality").bool?
  let columns ← (← (← v.field? "columns").items?).mapM Column.ofJson?
  some ⟨name, descriptor, lowCardinality, columns⟩

/-! ## Tables as they are written -/

theorem Descriptor.ofJson?_value (d : Descriptor) :
    ofJson? (Json.ofDescriptor d).value = some d := by
  cases d with
  | bare name => rfl
  | named table sqlType => rfl

theorem Column.ofJson?_value (column : Column) :
    ofJson? (Json.ofColumn column).value = some column := by
  rfl

theorem Column.mapM_ofJson?_value (columns : List Column) :
    (columns.map fun column => (Json.ofColumn column).value).mapM ofJson? = some columns := by
  induction columns with
  | nil => rfl
  | cons column rest ih => simp [List.mapM_cons, ofJson?_value, ih]

/-- Each table is described by what is written for it. -/
theorem Table.ofJson?_value (table : Table) : ofJson? (Json.ofTable table).value = some table := by
  have hvalue : (Json.ofTable table).value = .object [("name", .text table.name),
      ("descriptor", (Json.ofDescriptor table.descriptor).value),
      ("low_cardinality", .bool table.lowCardinality),
      ("columns", .array (table.columns.map fun column => (Json.ofColumn column).value))] := by
    simp only [Json.ofTable, Json.value, Json.fieldValues, Json.itemValues_eq_map, List.map_map]
    rfl
  have hread : ofJson? (Json.ofTable table).value =
      (Descriptor.ofJson? (Json.ofDescriptor table.descriptor).value).bind fun descriptor =>
        ((table.columns.map fun column => (Json.ofColumn column).value).mapM Column.ofJson?).bind
          fun columns => some ⟨table.name, descriptor, table.lowCardinality, columns⟩ := by
    rw [hvalue]
    rfl
  rw [hread, Descriptor.ofJson?_value, Column.mapM_ofJson?_value]
  rfl

namespace Listing

variable {σ : Type} {files : FileSystem (StateM σ)} {out : Receiver} {state later : σ}
  {call : Listing} {catalog directory : Option String} {received : Octets}

/-- A listing that goes well has told all of the tables of its configuration. -/
theorem resolve_of_run
    (h : (run files out call directory).run state = (⟨received, .ok ()⟩, later)) :
    ∃ config, (Config.resolve files directory call.catalog).run.run state = (.ok config, later) ∧
      received = octets (text call.json
        (config.catalog.map fun d => Table.build d config.project.options)) := by
  cases hresolve : (Config.resolve files directory call.catalog).run.run state with
  | mk result later' =>
      cases result with
      | error error =>
          rw [run_of_unresolved call hresolve] at h
          cases h
      | ok config =>
          cases hvalidate : config.catalog.validate with
          | error fault =>
              rw [run_of_fault call hresolve hvalidate] at h
              cases h
          | ok _ =>
              let sent := (pieces call.json
                (config.catalog.map fun d => Table.build d config.project.options)).map octets
              have hrun : (delivery (out.takePieces 0 sent), later') =
                  (⟨received, .ok ()⟩, later) :=
                (run_of_valid call hresolve hvalidate).symm.trans h
              obtain ⟨htold, hlater⟩ := Prod.mk.inj hrun
              have hstreams := streams_takePieces out sent
              rw [htold] at hstreams
              refine ⟨config, by rw [hlater], ?_⟩
              rw [← join_pieces, octets_join]
              exact hstreams.result_eq_ok_iff.mp rfl

/-- What arrives of a listing as JSON that goes well is one JSON text and the end of its line.  The
text is read as an array, and its items describe the tables of the catalog, one each and in
order. -/
theorem run_json_decodes
    (h : (run files out ⟨catalog, true⟩ directory).run state = (⟨received, .ok ()⟩, later)) :
    ∃ config document items,
      (Config.resolve files directory catalog).run.run state = (.ok config, later) ∧
      received = octets (document ++ "\n") ∧
      Value.ofText? document = some (.array items) ∧
      items.map Table.ofJson? =
        config.catalog.map fun d => some (Table.build d config.project.options) := by
  obtain ⟨config, hresolve, hreceived⟩ := resolve_of_run h
  let tables := config.catalog.map fun d => Table.build d config.project.options
  refine ⟨config, (Json.array (tables.map Json.ofTable)).render,
    tables.map fun table => (Json.ofTable table).value, hresolve, hreceived, ?_, ?_⟩
  · rw [Json.ofText?_render, Json.value, Json.itemValues_eq_map, List.map_map]
    rfl
  · have hitems : (Table.ofJson? ∘ fun table => (Json.ofTable table).value) = some :=
      funext Table.ofJson?_value
    rw [List.map_map, hitems, List.map_map]
    rfl

/-- A prefix and a type with quotes, backslashes, control characters and characters beyond ASCII. -/
theorem run_json_decodes_escaped :
    let project := ((FileTree.fresh "work").write "chgen-project.yml"
      (octets "name: p\ntable_prefix: \"t\\\"é\\\\\\u0001\"\n")).2
    let tree := (project.write "types.yml"
      (octets "- UUID\n- table: E\n  type: \"Enum8('\\\"' = 1)\\n\\u2028\"\n")).2
    let options : Options := ⟨"t\"é\\\x01", "Memory()", Options.standard.settings, .flat⟩
    ∃ received later document items,
      (run FileTree.system .everything ⟨some "types.yml", true⟩ none).run tree =
        (⟨received, .ok ()⟩, later) ∧
      received = octets (document ++ "\n") ∧
      Value.ofText? document = some (.array items) ∧
      items.map Table.ofJson? =
        [some (Table.build (.bare "UUID") options),
          some (Table.build (.named "E" "Enum8('\"' = 1)\n\u2028") options)] := by
  intro project tree options
  let config : Config := ⟨⟨"p", some "t\"é\\\x01", none, none, none, none, none⟩,
    [.bare "UUID", .named "E" "Enum8('\"' = 1)\n\u2028"], none⟩
  have hvalid : config.catalog.validate = .ok () := by decide +kernel
  have hconfig : ((Config.resolve FileTree.system none (some "types.yml")).run.run tree).1 =
      .ok config := by
    decide +kernel
  have hpair {p : Except CommandError Config × FileTree} (h : p.1 = .ok config) :
      p = (.ok config, p.2) := by
    rw [← h]
  obtain ⟨later, hresolve⟩ : ∃ later,
      (Config.resolve FileTree.system none (some "types.yml")).run.run tree =
        (.ok config, later) := ⟨_, hpair hconfig⟩
  -- The files play no part any more.
  clear_value tree
  have hrun := run_everything_of_valid true hresolve hvalid
  obtain ⟨config', document, items, hconfig', hreceived, hdocument, hitems⟩ :=
    run_json_decodes hrun
  rw [hresolve] at hconfig'
  cases hconfig'
  exact ⟨_, later, document, items, hrun, hreceived, hdocument, hitems⟩

end Listing

end TypeFixtures
