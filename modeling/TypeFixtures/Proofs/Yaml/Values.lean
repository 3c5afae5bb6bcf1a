import Mathlib.Data.List.Forall2
import TypeFixtures.Proofs.Computation
import TypeFixtures.Yaml.Value

/-!
# What nodes stand for

Reading a node goes down into all its parts and follows every alias.  A node can be read if its
parts are of an ordinary kind, its collections do not stand too deep inside each other, and the
aliases on the way are not too many.

* `Node.parts`, `isOrdinary` — the parts of a node, and the ones that cause no fault;
* `aliases?` — how many aliases are followed, for nodes that are not too deep;
* `read_of_aliases?` — reading such a node gives a value;
* `Reads.mirrors` — and what the value says of the node.
-/

namespace TypeFixtures.Yaml

/-! ## Aliases -/

namespace Anchors

/-- The node that is meant: an alias means its target. -/
def meant (anchors : Anchors) : Node → Node
  | .alias _ number => anchors.target number
  | node => node

/-- The text that a node stands for. -/
def text? (anchors : Anchors) (node : Node) : Option String :=
  match anchors.meant node with
  | .scalar head plain cs =>
      match Scalar.resolve head.tag plain cs with
      | .ok (.text text) => some (String.ofList text)
      | _ => none
  | _ => none

end Anchors

namespace Node

/-- How many aliases are followed to the node that is meant. -/
def hops : Node → Nat
  | .alias _ _ => 1
  | _ => 0

/-- Whether a node is a sequence. -/
def isSequence : Node → Bool
  | sequence _ _ => true
  | _ => false

/-- The entries of a mapping; no other node has entries. -/
def entries : Node → List (Node × Node)
  | mapping _ entries => entries
  | _ => []

/-- The items of a sequence; the keys and the values of a mapping. -/
def children : Node → List Node
  | sequence _ items => items
  | mapping _ entries => entries.flatMap fun entry => [entry.1, entry.2]
  | _ => []

mutual

/-- The nodes that a node is made of, itself among them. -/
def parts : Node → List Node
  | scalar head plain text => [scalar head plain text]
  | sequence head items => sequence head items :: itemsParts items
  | mapping head entries => mapping head entries :: entriesParts entries
  | .alias mark number => [.alias mark number]
  | missing => [missing]

/-- The nodes that items are made of. -/
def itemsParts : List Node → List Node
  | [] => []
  | node :: rest => node.parts ++ itemsParts rest

/-- The nodes that entries are made of. -/
def entriesParts : List (Node × Node) → List Node
  | [] => []
  | (key, value) :: rest => key.parts ++ value.parts ++ entriesParts rest

end

theorem mem_parts_self (node : Node) : node ∈ node.parts := by
  cases node <;> simp [parts]

theorem parts_subset_itemsParts {node : Node} {items : List Node} (h : node ∈ items) :
    node.parts ⊆ itemsParts items := by
  induction items with
  | nil => contradiction
  | cons first rest ih =>
      cases List.mem_cons.mp h with
      | inl hfirst =>
          subst hfirst
          exact List.subset_append_left _ _
      | inr hrest => exact List.subset_append_of_subset_right _ (ih hrest)

theorem parts_subset_entriesParts {entry : Node × Node} {entries : List (Node × Node)}
    (h : entry ∈ entries) : entry.1.parts ++ entry.2.parts ⊆ entriesParts entries := by
  induction entries with
  | nil => contradiction
  | cons first rest ih =>
      cases List.mem_cons.mp h with
      | inl hfirst =>
          subst hfirst
          exact List.subset_append_left _ _
      | inr hrest => exact List.subset_append_of_subset_right _ (ih hrest)

/-- The parts of a child are parts. -/
theorem parts_subset_of_mem_children {node child : Node} (h : child ∈ node.children) :
    child.parts ⊆ node.parts := by
  cases node with
  | scalar => contradiction
  | «alias» => contradiction
  | missing => contradiction
  | sequence head items =>
      exact List.subset_cons_of_subset _ (parts_subset_itemsParts h)
  | mapping head entries =>
      obtain ⟨entry, hentry, hchild⟩ := List.mem_flatMap.mp h
      have hparts := List.subset_cons_of_subset (mapping head entries)
        (parts_subset_entriesParts hentry)
      obtain rfl | rfl : child = entry.1 ∨ child = entry.2 := by simpa using hchild
      · exact List.Subset.trans (List.subset_append_left _ _) hparts
      · exact List.Subset.trans (List.subset_append_right _ _) hparts

theorem mem_label {head : NodeHead} {node : Node} {number : Nat} {target : Node}
    (h : (number, target) ∈ label head node) : target = node := by
  unfold label at h
  split at h
  · simp_all
  · contradiction

mutual

/-- A node with an anchor is a part, and so are its own parts. -/
theorem parts_subset_of_mem_anchored {number : Nat} {target : Node} :
    (node : Node) → (number, target) ∈ node.anchored → target.parts ⊆ node.parts
  | scalar _ _ _, h => by
      rw [mem_label h]
      exact List.Subset.refl _
  | sequence head items, h => by
      cases List.mem_append.mp h with
      | inl hitems =>
          exact List.subset_cons_of_subset _ (parts_subset_of_mem_anchoredItems items hitems)
      | inr hself =>
          rw [mem_label hself]
          exact List.Subset.refl _
  | mapping head entries, h => by
      cases List.mem_append.mp h with
      | inl hentries =>
          exact List.subset_cons_of_subset _
            (parts_subset_of_mem_anchoredEntries entries hentries)
      | inr hself =>
          rw [mem_label hself]
          exact List.Subset.refl _
  | .alias _ _, h => by contradiction
  | missing, h => by contradiction

theorem parts_subset_of_mem_anchoredItems {number : Nat} {target : Node} :
    (items : List Node) → (number, target) ∈ anchoredItems items →
      target.parts ⊆ itemsParts items
  | [], h => by contradiction
  | node :: rest, h => by
      cases List.mem_append.mp h with
      | inl hrest =>
          exact List.subset_append_of_subset_right _
            (parts_subset_of_mem_anchoredItems rest hrest)
      | inr hnode =>
          exact List.subset_append_of_subset_left _ (parts_subset_of_mem_anchored node hnode)

theorem parts_subset_of_mem_anchoredEntries {number : Nat} {target : Node} :
    (entries : List (Node × Node)) → (number, target) ∈ anchoredEntries entries →
      target.parts ⊆ entriesParts entries
  | [], h => by contradiction
  | (key, value) :: rest, h => by
      cases List.mem_append.mp h with
      | inr hkey =>
          exact List.subset_append_of_subset_left _
            (List.subset_append_of_subset_left _ (parts_subset_of_mem_anchored key hkey))
      | inl hothers =>
          cases List.mem_append.mp hothers with
          | inl hrest =>
              exact List.subset_append_of_subset_right _
                (parts_subset_of_mem_anchoredEntries rest hrest)
          | inr hvalue =>
              exact List.subset_append_of_subset_left _
                (List.subset_append_of_subset_right _ (parts_subset_of_mem_anchored value hvalue))

end

end Node

/-! ## Nodes that can be read -/

namespace Scalar

/-- A whole number that needs more than 64 binary digits. -/
def isWide : Scalar → Bool
  | wideUnsigned _ | wideSigned _ => true
  | _ => false

end Scalar

namespace Anchors

/-- A node without a tag.  A plain scalar is no number that is too wide, and the keys of a mapping
are texts. -/
def isOrdinary (anchors : Anchors) : Node → Bool
  | .scalar head plain cs => head.tag.isNone && !(plain && (Scalar.ofPlain cs).isWide)
  | .sequence head _ => head.tag.isNone
  | .mapping head entries =>
      head.tag.isNone && entries.all fun entry => (anchors.text? entry.1).isSome
  | .alias _ _ | .missing => true

/-- A node all of whose parts are ordinary. -/
def AreOrdinary (anchors : Anchors) (node : Node) : Prop :=
  node.parts.all anchors.isOrdinary = true

/-- The sum of what is counted for each of several nodes. -/
def total? (count : Node → Option Nat) : List Node → Option Nat
  | [] => some 0
  | node :: rest => do pure ((← count node) + (← total? count rest))

/-- How many aliases are followed in a node with at most a number of collections inside each other.
A node with more of them has no such number. -/
def aliases? (anchors : Anchors) : (depth : Nat) → Node → Option Nat
  | 0, node =>
      match anchors.meant node with
      | .scalar _ _ _ => some node.hops
      | _ => none
  | depth + 1, node =>
      match anchors.meant node with
      | .alias _ _ | .missing => none
      | meant => (total? (anchors.aliases? depth) meant.children).map (node.hops + ·)

theorem total?_cons_eq_some {count : Node → Option Nat} {node : Node} {rest : List Node} {n : Nat}
    (h : total? count (node :: rest) = some n) :
    ∃ first others, count node = some first ∧ total? count rest = some others ∧
      n = first + others := by
  obtain ⟨first, hfirst, hrest⟩ := Option.bind_eq_some_iff.mp h
  obtain ⟨others, hothers, hsum⟩ := Option.bind_eq_some_iff.mp hrest
  exact ⟨first, others, hfirst, hothers, (Option.some.inj hsum).symm⟩

theorem aliases?_sequence (anchors : Anchors) (depth : Nat) (head : NodeHead) (items : List Node) :
    anchors.aliases? (depth + 1) (.sequence head items) =
      total? (anchors.aliases? depth) items := by
  change (total? (anchors.aliases? depth) items).map (0 + ·) = _
  simp

variable {anchors : Anchors} {node : Node}

theorem AreOrdinary.self (h : anchors.AreOrdinary node) : anchors.isOrdinary node = true :=
  List.all_eq_true.mp h node node.mem_parts_self

theorem AreOrdinary.of_subset {other : Node} (h : anchors.AreOrdinary node)
    (hsubset : other.parts ⊆ node.parts) : anchors.AreOrdinary other :=
  List.all_eq_true.mpr fun part hpart => List.all_eq_true.mp h part (hsubset hpart)

theorem AreOrdinary.of_mem_children {part : Node} (h : anchors.AreOrdinary node)
    (hpart : part ∈ node.children) : anchors.AreOrdinary part :=
  h.of_subset (Node.parts_subset_of_mem_children hpart)

/-- What the aliases of a document mean is ordinary if the document is. -/
theorem AreOrdinary.target {root : Node} (h : AreOrdinary root.anchored root) (number : Nat) :
    AreOrdinary root.anchored (target root.anchored number) := by
  unfold Anchors.target
  cases hlookup : List.lookup number root.anchored with
  | none => rfl
  | some found =>
      obtain ⟨before, after, hsplit, -⟩ := List.lookup_eq_some_iff.mp hlookup
      have hfound : (number, found) ∈ root.anchored := by
        rw [hsplit]
        exact List.mem_append_right _ List.mem_cons_self
      exact h.of_subset (Node.parts_subset_of_mem_anchored root hfound)

theorem AreOrdinary.meant (htargets : ∀ number, anchors.AreOrdinary (anchors.target number))
    (h : anchors.AreOrdinary node) : anchors.AreOrdinary (anchors.meant node) := by
  cases node with
  | «alias» mark number => exact htargets number
  | _ => exact h

end Anchors

/-! ## Reading them -/

namespace Value

variable {anchors : Anchors} {node : Node} {path : Path} {depth n jumps left : Nat} {value : Value}

theorem follow_of_hops (h : node.hops ≤ jumps) :
    follow anchors node jumps = .ok (anchors.meant node, jumps - node.hops) := by
  cases node with
  | «alias» mark number =>
      cases jumps with
      | zero => contradiction
      | succ jumps => rfl
  | _ => rfl

theorem follow_eq_ok {found : Node} (h : follow anchors node jumps = .ok (found, left)) :
    found = anchors.meant node := by
  cases node with
  | «alias» mark number =>
      cases jumps with
      | zero => contradiction
      | succ jumps =>
          cases h
          rfl
  | _ =>
      cases h
      rfl

theorem isNamed_of_isNone {head : NodeHead} (h : head.tag.isNone = true) :
    isNamed head = false := by
  rw [isNamed, Option.isNone_iff_eq_none.mp h]
  rfl

/-- A scalar that is no number of too many digits is read. -/
theorem ofScalar_of_isOrdinary (path : Path) {head : NodeHead} {plain : Bool} {cs : List Char}
    (h : anchors.isOrdinary (.scalar head plain cs) = true) :
    ∃ value, ofScalar path head plain cs = .ok value := by
  obtain ⟨htag, hwide⟩ := Bool.and_eq_true_iff.mp h
  have hresolve : Scalar.resolve head.tag plain cs =
      .ok (if plain then Scalar.ofPlain cs else .text cs) := by
    rw [Option.isNone_iff_eq_none.mp htag]
    rfl
  simp only [ofScalar, hresolve]
  cases plain with
  | false => exact ⟨_, rfl⟩
  | true =>
      cases hplain : Scalar.ofPlain cs with
      | wideUnsigned n => simp [hplain, Scalar.isWide] at hwide
      | wideSigned n => simp [hplain, Scalar.isWide] at hwide
      | _ => exact ⟨_, rfl⟩

section Parts

variable {read : Path → Node → Nat → Except Fault (Value × Nat)} {count : Node → Option Nat}

/-- Reading goes well for every node that is counted, if enough aliases may still be followed. -/
def ReadsCounted (read : Path → Node → Nat → Except Fault (Value × Nat))
    (count : Node → Option Nat) (node : Node) : Prop :=
  ∀ path n jumps, count node = some n → n ≤ jumps →
    ∃ value, read path node jumps = .ok (value, jumps - n)

theorem readItems_of_total? (path : Path) {items : List Node}
    (hread : ∀ item ∈ items, ReadsCounted read count item)
    (htotal : Anchors.total? count items = some n) (hjumps : n ≤ jumps) (index : Nat) :
    ∃ values, readItems read path index items jumps = .ok (values, jumps - n) := by
  induction items generalizing n jumps index with
  | nil =>
      obtain rfl : 0 = n := Option.some.inj htotal
      exact ⟨[], rfl⟩
  | cons item rest ih =>
      obtain ⟨first, others, hfirst, hrest, rfl⟩ := Anchors.total?_cons_eq_some htotal
      obtain ⟨value, hvalue⟩ :=
        hread item List.mem_cons_self (.item index :: path) first jumps hfirst (by omega)
      obtain ⟨values, hvalues⟩ := ih
        (fun other hother => hread other (List.mem_cons_of_mem _ hother)) hrest
        (by omega : others ≤ jumps - first) (index + 1)
      refine ⟨value :: values, ?_⟩
      simp only [readItems, hvalue, Except.bind, bind, hvalues, Nat.sub_add_eq]
      rfl

theorem readEntries_of_total? (path : Path) {entries : List (Node × Node)}
    (hread : ∀ part ∈ entries.flatMap fun entry => [entry.1, entry.2], ReadsCounted read count part)
    (htotal : Anchors.total? count (entries.flatMap fun entry => [entry.1, entry.2]) = some n)
    (hjumps : n ≤ jumps) :
    ∃ values, readEntries read path entries jumps = .ok (values, jumps - n) := by
  induction entries generalizing n jumps with
  | nil =>
      obtain rfl : 0 = n := Option.some.inj htotal
      exact ⟨[], rfl⟩
  | cons entry rest ih =>
      -- A key and its value come one after the other, as they are counted.
      obtain ⟨first, _, hfirst, hothers, rfl⟩ := Anchors.total?_cons_eq_some htotal
      obtain ⟨second, others, hsecond, hrest, rfl⟩ := Anchors.total?_cons_eq_some hothers
      obtain ⟨key, hkey⟩ := hread entry.1 (by simp) path first jumps hfirst (by omega)
      obtain ⟨value, hvalue⟩ :=
        hread entry.2 (by simp) (stepTo entry.1 :: path) second (jumps - first) hsecond (by omega)
      obtain ⟨values, hvalues⟩ := ih (fun part hpart => hread part (by
          rw [List.flatMap_cons]
          exact List.mem_append_right _ hpart))
        hrest (by omega : others ≤ jumps - first - second)
      refine ⟨(key, value) :: values, ?_⟩
      simp only [readEntries, hkey, hvalue, Except.bind, bind, hvalues, Nat.sub_add_eq]
      rfl

end Parts

theorem read_of_scalar {head : NodeHead} {plain : Bool} {cs : List Char}
    (hkind : anchors.meant node = .scalar head plain cs)
    (hordinary : anchors.isOrdinary (.scalar head plain cs) = true) (hjumps : node.hops ≤ jumps)
    (path : Path) :
    ∃ value, read anchors depth path node jumps = .ok (value, jumps - node.hops) := by
  obtain ⟨value, hvalue⟩ := ofScalar_of_isOrdinary path hordinary
  have hnamed := isNamed_of_isNone (Bool.and_eq_true_iff.mp hordinary).1
  refine ⟨value, ?_⟩
  cases depth <;>
    simp only [read, follow_of_hops hjumps, hkind, bind, Except.bind, hvalue, hnamed] <;> rfl

/-- A node whose parts are ordinary is read if its collections are not too deep and enough aliases
may be followed. -/
theorem read_of_aliases? (htargets : ∀ number, anchors.AreOrdinary (anchors.target number))
    (hnode : anchors.AreOrdinary node) :
    ReadsCounted (read anchors depth) (anchors.aliases? depth) node := by
  induction depth generalizing node with
  | zero =>
      intro path n jumps hcount hjumps
      cases hkind : anchors.meant node with
      | scalar head plain cs =>
          simp only [Anchors.aliases?, hkind, Option.some.injEq] at hcount
          subst hcount
          exact read_of_scalar hkind (hkind ▸ (hnode.meant htargets).self) hjumps path
      | _ => simp [Anchors.aliases?, hkind] at hcount
  | succ depth ih =>
      intro path n jumps hcount hjumps
      have hmeant := hnode.meant htargets
      have hparts : ∀ part ∈ (anchors.meant node).children,
          ReadsCounted (read anchors depth) (anchors.aliases? depth) part :=
        fun part hpart => ih (hmeant.of_mem_children hpart)
      cases hkind : anchors.meant node with
      | «alias» => simp [Anchors.aliases?, hkind] at hcount
      | missing => simp [Anchors.aliases?, hkind] at hcount
      | scalar head plain cs =>
          obtain rfl : node.hops = n := by
            simpa [Anchors.aliases?, hkind, Node.children, Anchors.total?] using hcount
          exact read_of_scalar hkind (hkind ▸ hmeant.self) hjumps path
      | sequence head items =>
          rw [hkind] at hmeant hparts
          have hnamed := isNamed_of_isNone hmeant.self
          simp only [Anchors.aliases?, hkind, Option.map_eq_some_iff] at hcount
          obtain ⟨total, htotal, rfl⟩ := hcount
          obtain ⟨values, hvalues⟩ : ∃ values,
              readItems (read anchors depth) path 0 items (jumps - node.hops) =
                .ok (values, jumps - node.hops - total) :=
            readItems_of_total? path hparts htotal (by omega) 0
          refine ⟨.sequence values, ?_⟩
          simp only [read, follow_of_hops (by omega : node.hops ≤ jumps), hkind, bind, Except.bind,
            hnamed, hvalues, Nat.sub_add_eq]
          rfl
      | mapping head entries =>
          rw [hkind] at hmeant hparts
          have hnamed := isNamed_of_isNone (Bool.and_eq_true_iff.mp hmeant.self).1
          simp only [Anchors.aliases?, hkind, Option.map_eq_some_iff] at hcount
          obtain ⟨total, htotal, rfl⟩ := hcount
          obtain ⟨values, hvalues⟩ : ∃ values,
              readEntries (read anchors depth) path entries (jumps - node.hops) =
                .ok (values, jumps - node.hops - total) :=
            readEntries_of_total? path hparts htotal (by omega)
          refine ⟨.mapping values, ?_⟩
          simp only [read, follow_of_hops (by omega : node.hops ≤ jumps), hkind, bind, Except.bind,
            hnamed, hvalues, Nat.sub_add_eq]
          rfl

/-! ## What a value says of its node -/

/-- A value that a node is read as. -/
def Reads (anchors : Anchors) (node : Node) (value : Value) : Prop :=
  ∃ depth path jumps left, read anchors depth path node jumps = .ok (value, left)

theorem readEntries_eq_ok {entries : List (Node × Node)} {values : List (Value × Value)}
    (h : readEntries (read anchors depth) path entries jumps = .ok (values, left)) :
    List.Forall₂ (fun entry found => Reads anchors entry.1 found.1 ∧ Reads anchors entry.2 found.2)
      entries values := by
  induction entries generalizing values jumps left with
  | nil =>
      cases h
      exact .nil
  | cons entry rest ih =>
      obtain ⟨key, hkey, h⟩ := except_bind_eq_ok h
      obtain ⟨value, hvalue, h⟩ := except_bind_eq_ok h
      obtain ⟨others, hothers, h⟩ := except_bind_eq_ok h
      cases h
      exact .cons ⟨⟨_, _, _, _, hkey⟩, ⟨_, _, _, _, hvalue⟩⟩ (ih hothers)

theorem ofScalar_eq_ok {head : NodeHead} {plain : Bool} {cs : List Char}
    (h : ofScalar path head plain cs = .ok value) :
    ∃ found, Scalar.resolve head.tag plain cs = .ok found ∧ value = .scalar found := by
  unfold ofScalar at h
  split at h
  · contradiction
  · contradiction
  · contradiction
  · exact ⟨_, ‹_›, (Except.ok.inj h).symm⟩

theorem scalar_eq_ok {head : NodeHead} {plain : Bool} {cs : List Char}
    (h : (if isNamed head then .error .unreadable
      else do pure (← ofScalar path head plain cs, jumps) : Except Fault (Value × Nat)) =
        .ok (value, left)) :
    ∃ found, Scalar.resolve head.tag plain cs = .ok found ∧ value = .scalar found := by
  split at h
  · contradiction
  · obtain ⟨read, hread, h⟩ := except_bind_eq_ok h
    cases h
    exact ofScalar_eq_ok hread

/-- A value is of the kind of the node that is meant.  The entries of a mapping are read from its
entries, one by one. -/
inductive Mirrors (anchors : Anchors) (node : Node) : Value → Prop
  | scalar {head : NodeHead} {plain : Bool} {cs : List Char} {found : Scalar}
      (hmeant : anchors.meant node = .scalar head plain cs)
      (hresolve : Scalar.resolve head.tag plain cs = .ok found) :
      Mirrors anchors node (.scalar found)
  | sequence {head : NodeHead} {items : List Node} {values : List Value}
      (hmeant : anchors.meant node = .sequence head items) :
      Mirrors anchors node (.sequence values)
  | mapping {head : NodeHead} {entries : List (Node × Node)} {values : List (Value × Value)}
      (hmeant : anchors.meant node = .mapping head entries)
      (hentries : List.Forall₂ (fun entry found =>
        Reads anchors entry.1 found.1 ∧ Reads anchors entry.2 found.2) entries values) :
      Mirrors anchors node (.mapping values)

theorem Reads.mirrors (h : Reads anchors node value) : Mirrors anchors node value := by
  obtain ⟨depth, path, jumps, left, h⟩ := h
  cases depth with
  | zero =>
      obtain ⟨⟨found, between⟩, hfollow, h⟩ := except_bind_eq_ok h
      have hfound := (follow_eq_ok hfollow).symm
      cases found with
      | scalar head plain cs =>
          obtain ⟨found, hresolve, rfl⟩ := scalar_eq_ok h
          exact .scalar hfound hresolve
      | _ => contradiction
  | succ depth =>
      obtain ⟨⟨found, between⟩, hfollow, h⟩ := except_bind_eq_ok h
      have hfound := (follow_eq_ok hfollow).symm
      cases found with
      | scalar head plain cs =>
          obtain ⟨found, hresolve, rfl⟩ := scalar_eq_ok h
          exact .scalar hfound hresolve
      | sequence head items =>
          dsimp only at h
          split at h
          · contradiction
          · obtain ⟨values, -, h⟩ := except_bind_eq_ok h
            cases h
            exact .sequence hfound
      | mapping head entries =>
          dsimp only at h
          split at h
          · contradiction
          · obtain ⟨values, hvalues, h⟩ := except_bind_eq_ok h
            cases h
            exact .mapping hfound (readEntries_eq_ok hvalues)
      | _ => contradiction

end Value

end TypeFixtures.Yaml
