import TypeFixtures.Catalog.Reader
import TypeFixtures.Proofs.Config.Override
import TypeFixtures.Proofs.Yaml.Blocks
import TypeFixtures.Proofs.Yaml.Values

/-!
# The two shapes of descriptors

An item of a catalog is a text, or a mapping that gives `table` and `type` once each and a text for
both.  A catalog is read exactly if all its items have one of these shapes; otherwise nothing of it
is kept.

* `Describes` — the descriptor that an item has the shape of;
* `ofValue?_eq_some_iff` — the reader of items accepts these shapes;
* `load_accepts_two_shapes` — and a catalog file is accepted or rejected as a whole.
-/

namespace TypeFixtures

open Yaml (Anchors Node Value)

namespace Catalog

/-- What the entries of a mapping give for a field, in their order: the texts of the values, where
they are texts. -/
def given (anchors : Anchors) (field : String) (entries : List (Node × Node)) :
    List (Option String) :=
  (entries.filter fun entry => anchors.text? entry.1 = some field).map
    fun entry => anchors.text? entry.2

/-- An item has the shape of a descriptor. -/
inductive Describes (anchors : Anchors) (item : Node) : Descriptor → Prop
  | bare {text : String} (htext : anchors.text? item = some text) :
      Describes anchors item (.bare text)
  | named {head : Yaml.NodeHead} {entries : List (Node × Node)} {table sqlType : String}
      (hmeant : anchors.meant item = .mapping head entries)
      (htable : given anchors "table" entries = [some table])
      (htype : given anchors "type" entries = [some sqlType]) :
      Describes anchors item (.named table sqlType)

section

variable {anchors : Anchors} {item : Node} {d : Descriptor}

theorem describes_of_given {table sqlType : String}
    (htable : given anchors "table" (anchors.meant item).entries = [some table])
    (htype : given anchors "type" (anchors.meant item).entries = [some sqlType]) :
    Describes anchors item (.named table sqlType) := by
  cases hmeant : anchors.meant item with
  | mapping head entries =>
      rw [hmeant] at htable htype
      exact .named hmeant htable htype
  | _ =>
      rw [hmeant] at htable
      contradiction

theorem given_cons (field : String) (entry : Node × Node) (entries : List (Node × Node)) :
    given anchors field (entry :: entries) =
      if anchors.text? entry.1 = some field then
        anchors.text? entry.2 :: given anchors field entries
      else given anchors field entries := by
  by_cases h : anchors.text? entry.1 = some field <;> simp [given, h]

/-- What is read of a node is a text exactly if the node stands for it. -/
theorem text?_of_reads {value : Value} (h : Value.Reads anchors item value) :
    Descriptor.text? value = anchors.text? item := by
  cases h.mirrors with
  | scalar hmeant hresolve =>
      simp only [Anchors.text?, hmeant, hresolve]
      split <;> simp_all [Descriptor.text?]
  | sequence hmeant => simp only [Anchors.text?, hmeant, Descriptor.text?]
  | mapping hmeant _ => simp only [Anchors.text?, hmeant, Descriptor.text?]

variable {entries : List (Node × Node)} {values : List (Value × Value)}
  {table sqlType : Option String}

/-- A field that is collected already counts as given once more, before the others. -/
def withBefore (before : Option String) (others : List (Option String)) : List (Option String) :=
  match before with
  | some text => some text :: others
  | none => others

theorem field?_of_reads {key : Node} {value : Value} {name : String}
    (h : Value.Reads anchors key value) (hname : anchors.text? key = some name) :
    Descriptor.field? value =
      some (if name = "table" then .table else if name = "type" then .sqlType else .other) := by
  have htext := (text?_of_reads h).trans hname
  cases value with
  | scalar found =>
      cases found with
      | text cs =>
          obtain rfl : String.ofList cs = name := Option.some.inj htext
          have htable : String.ofList cs = "table" ↔ cs = "table".toList := by
            rw [← String.toList_inj, String.toList_ofList]
          have htype : String.ofList cs = "type" ↔ cs = "type".toList := by
            rw [← String.toList_inj, String.toList_ofList]
          simp only [Descriptor.field?, htable, htype]
          split
          · rfl
          · split <;> rfl
      | _ => contradiction
  | _ => contradiction

/-- The entries of a mapping give a descriptor exactly if both fields are given once. -/
theorem named?_eq_some_iff
    (hentries : List.Forall₂ (fun entry found =>
      Value.Reads anchors entry.1 found.1 ∧ Value.Reads anchors entry.2 found.2) entries values)
    (hkeys : entries.all (fun entry => (anchors.text? entry.1).isSome) = true) :
    Descriptor.named? table sqlType values = some d ↔
      ∃ t s, d = .named t s ∧ withBefore table (given anchors "table" entries) = [some t] ∧
        withBefore sqlType (given anchors "type" entries) = [some s] := by
  induction hentries generalizing table sqlType with
  | nil =>
      have hnil : Descriptor.named? table sqlType [] =
        table.bind fun t => sqlType.bind fun s => some (.named t s) := rfl
      rw [hnil]
      cases table <;> cases sqlType <;> simp [withBefore, given, eq_comm]
  | @cons entry found rest others hfirst hrest ih =>
      obtain ⟨hkey, hothers⟩ := Bool.and_eq_true_iff.mp hkeys
      obtain ⟨name, hname⟩ := Option.isSome_iff_exists.mp hkey
      have hfield := field?_of_reads hfirst.1 hname
      have hvalue := text?_of_reads hfirst.2
      rw [given_cons, given_cons, hname, Descriptor.named?.eq_def]
      dsimp only
      rw [hfield]
      by_cases htable : name = "table"
      · subst htable
        rw [if_pos rfl, if_pos rfl, if_neg (by decide)]
        dsimp only
        rw [hvalue]
        cases table with
        | some earlier => simp [withBefore]
        | none =>
            cases anchors.text? entry.2 with
            | none => simp [withBefore]
            | some text => exact ih hothers
      · by_cases htype : name = "type"
        · subst htype
          rw [if_neg (by decide), if_pos rfl, if_neg (by decide), if_pos rfl]
          dsimp only
          rw [hvalue]
          cases sqlType with
          | some earlier => simp [withBefore]
          | none =>
              cases anchors.text? entry.2 with
              | none => simp [withBefore]
              | some text => exact ih hothers
        · rw [if_neg htable, if_neg htype, if_neg fun h => htable (Option.some.inj h),
            if_neg fun h => htype (Option.some.inj h)]
          exact ih hothers

/-- What is no mapping has no other shape than that of a text. -/
theorem describes_iff_of_not_mapping
    (hmeant : ∀ head entries, anchors.meant item ≠ .mapping head entries) :
    Describes anchors item d ↔ ∃ text, anchors.text? item = some text ∧ d = .bare text := by
  constructor
  · intro h
    cases h with
    | bare htext => exact ⟨_, htext, rfl⟩
    | named hmapping => exact absurd hmapping (hmeant _ _)
  · rintro ⟨text, htext, rfl⟩
    exact .bare htext

/-- The items that are accepted are those of the two shapes. -/
theorem ofValue?_eq_some_iff {value : Value} (h : Value.Reads anchors item value)
    (hordinary : anchors.isOrdinary (anchors.meant item) = true) :
    Descriptor.ofValue? value = some d ↔ Describes anchors item d := by
  have htext := text?_of_reads h
  cases h.mirrors with
  | @scalar _ _ _ found hmeant _ =>
      rw [describes_iff_of_not_mapping (by simp [hmeant]), ← htext]
      cases found <;> simp [Descriptor.ofValue?, Descriptor.text?, eq_comm]
  | sequence hmeant =>
      rw [describes_iff_of_not_mapping (by simp [hmeant]), ← htext]
      simp [Descriptor.ofValue?, Descriptor.text?]
  | mapping hmeant hentries =>
      rw [hmeant] at hordinary
      refine (named?_eq_some_iff hentries (Bool.and_eq_true_iff.mp hordinary).2).trans ?_
      constructor
      · rintro ⟨table, sqlType, rfl, htable, htype⟩
        exact .named hmeant htable htype
      · intro hitem
        cases hitem with
        | bare hbare => simp [← htext, Descriptor.text?] at hbare
        | named hsame htable htype =>
            obtain ⟨rfl, rfl⟩ := Node.mapping.inj (hmeant.symm.trans hsame)
            exact ⟨_, _, rfl, htable, htype⟩

theorem Describes.unique {d' : Descriptor} (h : Describes anchors item d)
    (h' : Describes anchors item d') : d' = d := by
  cases h with
  | bare htext =>
      cases h' with
      | bare htext' =>
          obtain rfl := Option.some.inj (htext'.symm.trans htext)
          rfl
      | named hmeant => simp [Anchors.text?, hmeant] at htext
  | named hmeant htable htype =>
      cases h' with
      | bare htext => simp [Anchors.text?, hmeant] at htext
      | named hmeant' htable' htype' =>
          obtain ⟨rfl, rfl⟩ := Node.mapping.inj (hmeant'.symm.trans hmeant)
          simp_all

/-- The order of the entries of a mapping does not matter. -/
theorem Describes.of_perm {other : Node} {head head' : Yaml.NodeHead} {others : List (Node × Node)}
    (hmeant : anchors.meant item = .mapping head entries)
    (hother : anchors.meant other = .mapping head' others) (hperm : others.Perm entries)
    (h : Describes anchors item d) : Describes anchors other d := by
  have hgiven : ∀ field text, given anchors field entries = [some text] →
      given anchors field others = [some text] := by
    intro field text hentries
    refine List.perm_singleton.mp ?_
    rw [← hentries]
    exact (hperm.filter _).map _
  cases h with
  | bare htext => simp [Anchors.text?, hmeant] at htext
  | named hsame htable htype =>
      obtain ⟨rfl, rfl⟩ := Node.mapping.inj (hmeant.symm.trans hsame)
      exact .named hother (hgiven _ _ htable) (hgiven _ _ htype)

/-! ## Whole catalogs -/

/-- Items that can be read are accepted together, or the catalog is rejected. -/
theorem readItems_of_total? {items : List Node} {mark : Yaml.Mark} {n jumps : Nat}
    (htargets : ∀ number, anchors.AreOrdinary (anchors.target number))
    (hitems : ∀ item ∈ items, anchors.AreOrdinary item)
    (htotal : Anchors.total? (anchors.aliases? (Value.depthLimit - 1)) items = some n)
    (hjumps : n ≤ jumps) (index : Nat) :
    (∃ catalog, readItems anchors mark index items jumps = .ok catalog ∧
      List.Forall₂ (Describes anchors) items catalog) ∨
    (readItems anchors mark index items jumps = .error (.misfit noDescriptor [] mark) ∧
      ∃ item ∈ items, ∀ d, ¬ Describes anchors item d) := by
  induction items generalizing n jumps index with
  | nil => exact Or.inl ⟨[], rfl, .nil⟩
  | cons item rest ih =>
      obtain ⟨first, others, hfirst, hrest, rfl⟩ := Anchors.total?_cons_eq_some htotal
      have hitem := hitems item List.mem_cons_self
      obtain ⟨value, hvalue⟩ :=
        Value.read_of_aliases? htargets hitem [.item index] first jumps hfirst (by omega)
      have hshape : ∀ d, Descriptor.ofValue? value = some d ↔ Describes anchors item d :=
        fun d => ofValue?_eq_some_iff ⟨_, _, _, _, hvalue⟩ (hitem.meant htargets).self
      simp only [readItems, hvalue, bind, Except.bind]
      cases hd : Descriptor.ofValue? value with
      | none =>
          refine Or.inr ⟨rfl, item, List.mem_cons_self, fun d hdescribes => ?_⟩
          rw [(hshape d).mpr hdescribes] at hd
          contradiction
      | some d =>
          have hothers := fun other hother => hitems other (List.mem_cons_of_mem _ hother)
          obtain ⟨catalog, hread, hall⟩ | ⟨hread, other, hother, hnone⟩ :=
            ih hothers hrest (by omega : others ≤ jumps - first) (index + 1)
          · refine Or.inl ⟨d :: catalog, ?_, .cons ((hshape d).mp hd) hall⟩
            simp only [hread]
            rfl
          · refine Or.inr ⟨?_, other, List.mem_cons_of_mem _ hother, hnone⟩
            simp only [hread]

theorem exists_of_forall₂_describes {items : List Node} {catalog : Catalog}
    (h : List.Forall₂ (Describes anchors) items catalog) :
    ∀ item ∈ items, ∃ d, Describes anchors item d :=
  ((List.forall₂_and_left _ _).mp (h.imp fun _ d hd => ⟨⟨d, hd⟩, hd⟩)).1

/-- Descriptors that the same items have the shapes of are the same. -/
theorem eq_of_forall₂_describes {items : List Node} {catalog others : Catalog}
    (h : List.Forall₂ (Describes anchors) items catalog)
    (hothers : List.Forall₂ (Describes anchors) items others) : others = catalog := by
  induction h generalizing others with
  | nil =>
      cases hothers
      rfl
  | cons hfirst _ ih =>
      cases hothers with
      | cons hfirst' hrest => rw [hfirst.unique hfirst', ih hrest]

end

end Catalog

namespace Config

variable {tree : FileTree} {path : String} {bytes : Octets}

theorem loadCatalog_of_read {catalog : Catalog} (hfile : tree.read path = .content bytes)
    (hcatalog : Catalog.ofOctets bytes = .ok catalog) :
    (loadCatalog FileTree.system path).run.run tree = (.ok catalog, tree) :=
  (looks_load Catalog.ofOctets path tree).trans
    (congrArg (·, tree) (load_seen_of_read hfile hcatalog))

theorem loadCatalog_of_fault {fault : Yaml.Fault} (hfile : tree.read path = .content bytes)
    (hfault : Catalog.ofOctets bytes = .error fault) :
    (loadCatalog FileTree.system path).run.run tree =
      (.error (.parse (path ++ ": " ++ fault.message)), tree) :=
  (looks_load Catalog.ofOctets path tree).trans
    (congrArg (·, tree) (load_seen_of_fault hfile hfault))

end Config

namespace Catalog

variable {tree : FileTree} {path : String} {bytes : Octets} {root : Node}

theorem document_eq_of_ending {document : Yaml.Document} (h : document.ending = .clean) :
    document = ⟨document.root, .clean⟩ := by
  rw [← h]

theorem ofOctets_of_clean {result : Except Yaml.Fault Catalog}
    (hdocument : Yaml.Document.ofOctets bytes = ⟨root, .clean⟩) (hroot : ofNode root = result) :
    ofOctets bytes = result := by
  rw [ofOctets, hdocument, Yaml.Document.decode, hroot]
  cases result <;> rfl

/-- A root that is a sequence is a catalog if all its items have one of the two shapes. -/
theorem ofNode_of_aliases? {n : Nat} (hsequence : root.isSequence = true)
    (hordinary : Anchors.AreOrdinary root.anchored root)
    (hcount : Anchors.aliases? root.anchored Value.depthLimit root = some n)
    (hlimit : n ≤ Value.jumpLimit root.weight) :
    (∃ catalog, ofNode root = .ok catalog ∧
      List.Forall₂ (Describes root.anchored) root.children catalog) ∨
    ((∃ mark, ofNode root = .error (.misfit noDescriptor [] mark)) ∧
      ∃ item ∈ root.children, ∀ d, ¬ Describes root.anchored item d) := by
  cases hroot : root with
  | sequence head items =>
      rw [← hroot]
      have hread : ofNode root =
          readItems root.anchored head.mark 0 root.children (Value.jumpLimit root.weight) := by
        rw [hroot]
        rfl
      have htotal : Anchors.total? (Anchors.aliases? root.anchored (Value.depthLimit - 1))
          root.children = some n := by
        rw [← hcount, hroot]
        exact (Anchors.aliases?_sequence _ _ head items).symm
      rw [hread]
      obtain hcatalog | ⟨hfault, hnone⟩ :=
        readItems_of_total? hordinary.target (fun _ => hordinary.of_mem_children) htotal hlimit 0
      · exact Or.inl hcatalog
      · exact Or.inr ⟨⟨_, hfault⟩, hnone⟩
  | _ =>
      rw [hroot] at hsequence
      contradiction

/-- A file with a sequence whose nodes are ordinary and not too deep, and in which not too many
aliases are followed, holds a catalog exactly if every item has one of the two shapes.  There is
then one descriptor for each item, in their order; otherwise nothing of the file is kept. -/
theorem load_accepts_two_shapes {n : Nat} (hfile : tree.read path = .content bytes)
    (hdocument : Yaml.Document.ofOctets bytes = ⟨root, .clean⟩)
    (hsequence : root.isSequence = true) (hordinary : Anchors.AreOrdinary root.anchored root)
    (hcount : Anchors.aliases? root.anchored Value.depthLimit root = some n)
    (hlimit : n ≤ Value.jumpLimit root.weight) :
    ∃ result, (Config.loadCatalog FileTree.system path).run.run tree = (result, tree) ∧
      ((∃ catalog, result = .ok catalog) ↔
        ∀ item ∈ root.children, ∃ d, Describes root.anchored item d) ∧
      (∀ catalog, result = .ok catalog ↔
        List.Forall₂ (Describes root.anchored) root.children catalog) ∧
      ((∃ item ∈ root.children, ∀ d, ¬ Describes root.anchored item d) →
        ∃ mark, result = .error (.parse
          (path ++ ": " ++ (Yaml.Fault.misfit noDescriptor [] mark).message))) := by
  obtain ⟨catalog, hvalue, hall⟩ | ⟨⟨mark, hfault⟩, item, hitem, hnone⟩ :=
    ofNode_of_aliases? hsequence hordinary hcount hlimit
  · have hevery := exists_of_forall₂_describes hall
    refine ⟨_, Config.loadCatalog_of_read hfile (ofOctets_of_clean hdocument hvalue), ?_, ?_, ?_⟩
    · exact ⟨fun _ => hevery, fun _ => ⟨catalog, rfl⟩⟩
    · intro other
      constructor
      · intro h
        cases h
        exact hall
      · intro h
        rw [eq_of_forall₂_describes hall h]
    · rintro ⟨item, hitem, hnone⟩
      obtain ⟨d, hd⟩ := hevery item hitem
      exact absurd hd (hnone d)
  · refine ⟨_, Config.loadCatalog_of_fault hfile (ofOctets_of_clean hdocument hfault), ?_, ?_,
      fun _ => ⟨mark, rfl⟩⟩
    · constructor
      · rintro ⟨catalog, h⟩
        contradiction
      · intro h
        obtain ⟨d, hd⟩ := h item hitem
        exact absurd hd (hnone d)
    · intro catalog
      constructor
      · intro h
        contradiction
      · intro h
        obtain ⟨d, hd⟩ := exists_of_forall₂_describes h item hitem
        exact absurd hd (hnone d)

/-- A catalog whose second item takes its type from the first one and has a key that is ignored. -/
theorem load_accepts_two_shapes_ipv4 :
    let bytes := octets "- &a IPv4\n- \x7bmore: [~, 1], type: *a, table: ip\x7d\n"
    let root := (Yaml.Document.ofOctets bytes).root
    let tree := ((FileTree.fresh "work").write "types.yml" bytes).2
    (tree.read "types.yml" = .content bytes ∧
      Yaml.Document.ofOctets bytes = ⟨root, .clean⟩ ∧ root.isSequence = true ∧
      Anchors.AreOrdinary root.anchored root ∧
      Anchors.aliases? root.anchored Value.depthLimit root = some 1 ∧
      1 ≤ Value.jumpLimit root.weight) ∧
    ((∃ catalog, (Config.loadCatalog FileTree.system "types.yml").run.run tree =
        (.ok catalog, tree)) ↔
      ∀ item ∈ root.children, ∃ d, Describes root.anchored item d) := by
  intro bytes root tree
  have hfile : tree.read "types.yml" = .content bytes := by decide +kernel
  have hdocument : Yaml.Document.ofOctets bytes = ⟨root, .clean⟩ :=
    document_eq_of_ending (by decide +kernel)
  have hsequence : root.isSequence = true := by decide +kernel
  have hordinary : root.parts.all (Anchors.isOrdinary root.anchored) = true := by decide +kernel
  have hcount : Anchors.aliases? root.anchored Value.depthLimit root = some 1 := by decide +kernel
  have hlimit : 1 ≤ Value.jumpLimit root.weight := by decide +kernel
  obtain ⟨result, hresult, haccepts, -, -⟩ :=
    load_accepts_two_shapes hfile hdocument hsequence hordinary hcount hlimit
  refine ⟨⟨hfile, hdocument, hsequence, hordinary, hcount, hlimit⟩, ?_⟩
  rw [hresult, ← haccepts]
  exact exists_congr fun catalog =>
    ⟨fun h => congrArg Prod.fst h, fun h => congrArg (·, tree) h⟩

/-- A descriptor beside whose fields stand nine nodes; each but the first holds three times the one
before it. -/
def repeatingText : String :=
  "- \x7btable: t, type: T, more: [&a 0, &b [*a,*a,*a], &c [*b,*b,*b], &d [*c,*c,*c], " ++
  "&e [*d,*d,*d], &f [*e,*e,*e], &g [*f,*f,*f], &h [*g,*g,*g], &i [*h,*h,*h]]\x7d\n"

/-- Items of the right shape that are not too deep are refused where too many aliases are
followed. -/
theorem repeated_aliases_spoil_catalog :
    ¬ ∀ (tree : FileTree) (path : String) (bytes : Octets) (root : Node),
      tree.read path = .content bytes → Yaml.Document.ofOctets bytes = ⟨root, .clean⟩ →
      root.isSequence = true → Anchors.AreOrdinary root.anchored root →
      (Anchors.aliases? root.anchored Value.depthLimit root).isSome = true →
      (∀ item ∈ root.children, ∃ d, Describes root.anchored item d) →
      ∃ catalog, (Config.loadCatalog FileTree.system path).run.run tree = (.ok catalog, tree) := by
  intro haccepts
  let root := (Yaml.Document.ofChars repeatingText.toList).root
  let tree := ((FileTree.fresh "work").write "types.yml" (octets repeatingText)).2
  have hfile : tree.read "types.yml" = .content (octets repeatingText) := by decide +kernel
  obtain ⟨hending, hsequence, hordinary, hcount, hgiven, hrefused⟩ :
      (Yaml.Document.ofChars repeatingText.toList).ending = .clean ∧ root.isSequence = true ∧
      root.parts.all (Anchors.isOrdinary root.anchored) = true ∧
      (Anchors.aliases? root.anchored Value.depthLimit root).isSome = true ∧
      (∀ item ∈ root.children,
        given root.anchored "table" (Anchors.meant root.anchored item).entries = [some "t"] ∧
        given root.anchored "type" (Anchors.meant root.anchored item).entries = [some "T"]) ∧
      ofNode root = .error .unreadable := by
    decide +kernel
  have hdocument : Yaml.Document.ofOctets (octets repeatingText) = ⟨root, .clean⟩ := by
    rw [Yaml.Document.ofOctets_octets]
    exact document_eq_of_ending hending
  have hdescribes : ∀ item ∈ root.children, ∃ d, Describes root.anchored item d :=
    fun item hitem => ⟨_, describes_of_given (hgiven item hitem).1 (hgiven item hitem).2⟩
  obtain ⟨catalog, hload⟩ := haccepts tree "types.yml" _ root hfile hdocument hsequence hordinary
    hcount hdescribes
  rw [Config.loadCatalog_of_fault hfile (ofOctets_of_clean hdocument hrefused)] at hload
  cases hload

end Catalog

end TypeFixtures
