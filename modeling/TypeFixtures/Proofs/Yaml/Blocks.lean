import TypeFixtures.Yaml.Document

/-!
# From the tokens of blocks to nodes

What is read of a block is read part by part: a scalar from its token, an entry from its key and its
value, an item from what comes after its dash.  The reader needs fuel for the depth of what is still
to come only, so that each part takes one step of it.
-/

namespace TypeFixtures.Yaml

namespace Document

/-- The octets of a text are read as that text. -/
theorem ofOctets_octets (s : String) : ofOctets (octets s) = ofChars s.toList := by
  have hbytes : String.fromUTF8? ⟨(octets s).toArray⟩ = some s := dif_pos s.isValidUTF8
  rw [ofOctets, hbytes]

/-- A document is its root and what comes after it. -/
theorem ofRoot_of_read {shorthands : Shorthands} {tokens : List Token} {root : Node}
    {reading : Reading}
    (hroot : Node.read shorthands (4 * tokens.length + 8) true false ⟨tokens, []⟩ =
      (root, reading)) :
    ofRoot shorthands tokens = ⟨root, endingOf reading.tokens⟩ := by
  rw [ofRoot, hroot]

end Document

namespace Node

variable {shorthands : Shorthands} {fuel : Nat} {block indentless plain : Bool}
  {text : List Char} {first : Token} {rest rest' : List Token}
  {anchors anchors' : List (List Char × Nat)} {reading : Reading} {node : Node}
  {entries : List (Node × Node)} {items : List Node} {start finish opens closes : Mark}

/-- A scalar without properties. -/
theorem read_scalar :
    read shorthands (fuel + 1) block indentless ⟨⟨.scalar plain text, start, finish⟩ :: rest, anchors⟩ =
      (scalar (.bare start) plain text, ⟨rest, anchors⟩) := by
  rw [read]
  rfl

/-- A block sequence is what its items are. -/
theorem read_blockSequence
    (hitems : readItems shorthands fuel false ⟨rest, anchors⟩ = (items, reading)) :
    read shorthands (fuel + 1) true indentless ⟨⟨.blockSequence, start, finish⟩ :: rest, anchors⟩ =
      (sequence (.bare start) items, reading) := by
  rw [read]
  change (sequence (.bare start) (readItems shorthands fuel false ⟨rest, anchors⟩).1,
    (readItems shorthands fuel false ⟨rest, anchors⟩).2) = _
  rw [hitems]

/-- A block mapping is what its entries are. -/
theorem read_blockMapping
    (hentries : readEntries shorthands fuel ⟨rest, anchors⟩ = (entries, reading)) :
    read shorthands (fuel + 1) true indentless ⟨⟨.blockMapping, start, finish⟩ :: rest, anchors⟩ =
      (mapping (.bare start) entries, reading) := by
  rw [read]
  change (mapping (.bare start) (readEntries shorthands fuel ⟨rest, anchors⟩).1,
    (readEntries shorthands fuel ⟨rest, anchors⟩).2) = _
  rw [hentries]

theorem readOr_of_not_stops {read : Reading → Node × Reading} {stops : Token.Kind → Bool}
    {place : Token → Mark} (hstops : stops first.kind = false) :
    readOr read stops place ⟨first :: rest, anchors⟩ = read ⟨first :: rest, anchors⟩ :=
  if_neg (Bool.eq_false_iff.mp hstops)

/-! ## Entries -/

/-- The end of a block. -/
theorem readEntries_nil :
    readEntries shorthands (fuel + 1) ⟨⟨.blockEnd, start, finish⟩ :: rest, anchors⟩ =
      ([], ⟨rest, anchors⟩) := by
  rw [readEntries]
  rfl

/-- An entry under a scalar. -/
theorem readEntries_cons {keyStart keyFinish : Mark} (hfirst : stopsBlock first.kind = false)
    (hvalue : read shorthands (fuel + 1) true true ⟨first :: rest, anchors⟩ =
      (node, ⟨rest', anchors'⟩))
    (hrest : readEntries shorthands (fuel + 1) ⟨rest', anchors'⟩ = (entries, reading)) :
    readEntries shorthands (fuel + 2)
        ⟨⟨.key, opens, closes⟩ :: ⟨.scalar plain text, keyStart, keyFinish⟩ ::
          ⟨.value, start, finish⟩ :: first :: rest, anchors⟩ =
      ((scalar (.bare keyStart) plain text, node) :: entries, reading) := by
  rw [readEntries]
  dsimp only [Reading.onto]
  rw [readOr_of_not_stops rfl, read_scalar, readBlockValue]
  dsimp only [Reading.onto]
  rw [readOr_of_not_stops hfirst, hvalue]
  dsimp only
  rw [hrest]

/-! ## Items -/

/-- The end of an indented block. -/
theorem readItems_nil :
    readItems shorthands (fuel + 1) false ⟨⟨.blockEnd, start, finish⟩ :: rest, anchors⟩ =
      ([], ⟨rest, anchors⟩) := by
  rw [readItems]
  rfl

/-- An item after its dash. -/
theorem readItems_cons (hfirst : stopsItem indentless first.kind = false)
    (hitem : read shorthands fuel true false ⟨first :: rest, anchors⟩ = (node, ⟨rest', anchors'⟩))
    (hrest : readItems shorthands fuel indentless ⟨rest', anchors'⟩ = (items, reading)) :
    readItems shorthands (fuel + 1) indentless
        ⟨⟨.blockEntry, start, finish⟩ :: first :: rest, anchors⟩ = (node :: items, reading) := by
  rw [readItems]
  dsimp only [Reading.onto]
  rw [readOr_of_not_stops hfirst, hitem]
  dsimp only
  rw [hrest]

end Node

end TypeFixtures.Yaml
