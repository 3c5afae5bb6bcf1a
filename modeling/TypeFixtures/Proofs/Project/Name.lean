import Mathlib.Data.List.Basic
import TypeFixtures.Project.Writer
import TypeFixtures.Proofs.Yaml.Ascii
import TypeFixtures.Proofs.Yaml.Quoted
import TypeFixtures.Text.Blank
import TypeFixtures.Yaml.Document

/-!
# The name of a new project, written and read

A name is written between quotes by the rules for one kind of text and read by those for another.
Every character that may stand in a text comes back, escaped or not, but three that end a line for
the reader only: they fold as ends of lines do, and a mark between documents behind one of them
breaks the name off.
-/

namespace TypeFixtures

namespace Project

open Yaml

/-! ## The words for characters -/

/-- The characters that can be read back at all. -/
def isReadable (c : Char) : Bool :=
  c.toNat < 0x20 || isLegible c

/-- The letters of escapes. -/
def letters : List Char := ['"', '\\', 'b', 'f', 'n', 'r', 't']

/-- A character is written by its code, by a letter or as it is. -/
inductive Spelling (c : Char) : List Char → Prop where
  | code (hcode : c.toNat < 0x80) (hread : isReadable c = true) : Spelling c (Json.byCode c)
  | letter {letter : Char} (hletter : letter ∈ letters)
      (hstands : Token.escaped? letter = some (.inl c)) (hread : isReadable c = true) :
      Spelling c ['\\', letter]
  | self (hvisible : 0x20 ≤ c.toNat) (hquote : c ≠ '"') (hslash : c ≠ '\\') : Spelling c [c]

theorem spelling_escape (c : Char) : Spelling c (Json.escape c) := by
  unfold Json.escape
  split_ifs with hquote hslash hback hfeed hline hreturn htab hlow
  iterate 7
    · subst_vars
      exact .letter (by decide) (by decide) (by decide)
  · exact .code (by omega) (by simp [isReadable, hlow])
  · exact .self (by omega) hquote hslash

theorem spelling_nameChar (c : Char) : Spelling c (nameChar c) := by
  unfold nameChar
  split
  next h =>
    simp only [Bool.or_eq_true, decide_eq_true_eq] at h
    rcases h with ((rfl | rfl) | rfl) | rfl <;> exact .code (by decide) (by decide)
  · exact spelling_escape c

/-- An escape is made of visible characters. -/
theorem Spelling.visible {c d : Char} {word : List Char} (h : Spelling c word) (hd : d ∈ word) :
    word = [c] ∨ (0x20 ≤ d.toNat ∧ d.toNat ≤ 0x7E) := by
  cases h with
  | code hcode _ =>
      have hdigit : ∀ n < 16, 0x20 ≤ (Json.hexDigit n).toNat ∧ (Json.hexDigit n).toNat ≤ 0x7E := by
        decide +kernel
      have hhigh := hdigit (c.toNat / 16) (by omega)
      have hlow := hdigit (c.toNat % 16) (by omega)
      right
      simp only [Json.byCode, List.mem_cons, List.not_mem_nil, or_false] at hd
      rcases hd with rfl | rfl | rfl | rfl | rfl | rfl
      iterate 4
        · decide
      · exact hhigh
      · exact hlow
  | letter hletter _ _ =>
      have hall : ('\\' :: letters).all (fun d => 0x20 ≤ d.toNat ∧ d.toNat ≤ 0x7E) = true := by
        decide
      have hletters (d : Char) (hd : d ∈ '\\' :: letters) : 0x20 ≤ d.toNat ∧ d.toNat ≤ 0x7E :=
        of_decide_eq_true (List.all_eq_true.mp hall d hd)
      right
      simp only [List.mem_cons, List.not_mem_nil, or_false] at hd
      rcases hd with rfl | rfl
      · exact hletters _ List.mem_cons_self
      · exact hletters _ (List.mem_cons_of_mem _ hletter)
  | self _ _ _ => exact .inl rfl

/-- No control character is left in a word. -/
theorem Spelling.le_toNat {c d : Char} {word : List Char} (h : Spelling c word) (hd : d ∈ word) :
    0x20 ≤ d.toNat := by
  rcases h.visible hd with hword | hvisible
  · subst hword
    cases List.mem_singleton.mp hd
    cases h with
    | self hvisible _ _ => exact hvisible
  · exact hvisible.1

/-- A word may stand in a text exactly if its character can be read back. -/
theorem Spelling.all_isLegible {c : Char} {word : List Char} (h : Spelling c word) :
    word.all isLegible = isReadable c := by
  have hescape (hword : word ≠ [c]) : word.all isLegible = true :=
    List.all_eq_true.mpr fun d hd =>
      have hvisible := (h.visible hd).resolve_left hword
      isLegible_of_ascii hvisible.1 hvisible.2
  cases h with
  | code _ hread => rw [hescape (by simp [Json.byCode]), hread]
  | letter _ _ hread => rw [hescape (by simp), hread]
  | self hvisible _ _ => simp [isReadable, Nat.not_lt.mpr hvisible]

/-! ## Characters that part words -/

/-- The characters of a name that end a line for the reader. -/
def endsLine (c : Char) : Bool :=
  c == '\u0085' || c == '\u2028' || c == '\u2029'

/-- The characters of a name that stand in a gap for the reader. -/
def partsWords (c : Char) : Bool :=
  c == ' ' || endsLine c

/-- A character as the reader meets it. -/
def spelled (c : Char) : List Char :=
  (nameChar c).map unify

/-- A character that parts words is met alone, in a gap. -/
theorem spelled_of_partsWords {c : Char} (h : partsWords c = true) :
    spelled c = [unify c] ∧ isGap (unify c) = true ∧ isBreak (unify c) = endsLine c ∧
      Text.isBlank (unify c) = true ∧ Text.isBlank c = true := by
  simp only [partsWords, endsLine, Bool.or_eq_true, beq_iff_eq] at h
  rcases h with rfl | (rfl | rfl) | rfl <;> decide

theorem endsLine_of_not_partsWords {c : Char} (h : partsWords c = false) : endsLine c = false := by
  rw [partsWords, Bool.or_eq_false_iff] at h
  exact h.2

/-- What is written as it is and parts no words means nothing to the reader. -/
theorem isGap_of_not_partsWords {c : Char} (h : partsWords c = false) (hvisible : 0x20 ≤ c.toNat) :
    isGap c = false ∧ unify c = c := by
  simp only [partsWords, endsLine, Bool.or_eq_false_iff, beq_eq_false_iff_ne] at h
  obtain ⟨hspace, ⟨hnext, hline⟩, hparagraph⟩ := h
  have hlow : ∀ d : Char, d.toNat < 0x20 → c ≠ d := by
    rintro d hd rfl
    omega
  have htab := hlow '\t' (by decide)
  have hfeed := hlow '\n' (by decide)
  have hreturn := hlow '\r' (by decide)
  constructor
  · simp [isGap, isPad, isBreak, hspace, htab, hfeed, hline, hparagraph]
  · simp [unify, hreturn, hnext]

/-- Any other character is met as the word that it is written by. -/
theorem spelled_eq_nameChar {c : Char} (h : partsWords c = false) : spelled c = nameChar c := by
  have hspelling := spelling_nameChar c
  refine (List.map_congr_left fun d hd => ?_).trans (List.map_id _)
  rcases hspelling.visible hd with hself | hvisible
  · rw [hself] at hspelling hd
    cases List.mem_singleton.mp hd
    cases hspelling with
    | self hvisible _ _ => exact (isGap_of_not_partsWords h hvisible).2
  · exact unify_of_ascii hvisible.1 hvisible.2

/-- The word stands for it. -/
theorem Spelling.standsFor {c : Char} {word : List Char} (h : Spelling c word)
    (hparts : partsWords c = false) : Token.StandsFor word c := by
  cases h with
  | code hcode _ => exact Token.standsFor_byCode (by omega)
  | letter hletter hstands _ =>
      have hletters : letters.any isBreak = false := by decide
      have hbreak := Bool.eq_false_iff.mpr (List.any_eq_false.mp hletters _ hletter)
      exact Token.standsFor_letter hbreak hstands
  | self hvisible hquote hslash =>
      exact Token.standsFor_self (isGap_of_not_partsWords hparts hvisible).1 hquote hslash

theorem standsFor_spelled {c : Char} (h : partsWords c = false) :
    Token.StandsFor (spelled c) c := by
  rw [spelled_eq_nameChar h]
  exact (spelling_nameChar c).standsFor h

/-! ## Marks between documents -/

/-- A mark between documents comes next. -/
def opensMark : List Char → Bool
  | '-' :: '-' :: '-' :: c :: _ => partsWords c
  | '.' :: '.' :: '.' :: c :: _ => partsWords c
  | _ => false

/-- A mark between documents comes at the start of a line.  `fresh` tells that a line starts here. -/
def holdsMark (fresh : Bool) : List Char → Bool
  | [] => false
  | c :: rest => (fresh && opensMark (c :: rest)) || holdsMark (endsLine c) rest

variable {name gap text rest : List Char} {mark : Mark}

/-- A mark between documents stands at the start, if a line starts there, or after the end of a
line. -/
theorem holdsMark_iff {fresh : Bool} :
    holdsMark fresh name = true ↔ (fresh = true ∧ opensMark name = true) ∨
      ∃ before c after, name = before ++ c :: after ∧ endsLine c = true ∧ opensMark after = true := by
  induction name generalizing fresh with
  | nil =>
      have hopens : opensMark [] = false := rfl
      simp [holdsMark, hopens]
  | cons c rest ih =>
      rw [holdsMark, Bool.or_eq_true, Bool.and_eq_true, ih]
      refine or_congr_right ⟨?_, ?_⟩
      · rintro (⟨hends, hopens⟩ | ⟨before, d, after, rfl, hd⟩)
        · exact ⟨[], c, rest, rfl, hends, hopens⟩
        · exact ⟨c :: before, d, after, rfl, hd⟩
      · rintro ⟨before, d, after, hname, hends, hopens⟩
        cases before with
        | nil =>
            obtain ⟨rfl, rfl⟩ := List.cons.inj hname
            exact .inl ⟨hends, hopens⟩
        | cons e before =>
            obtain ⟨rfl, rfl⟩ := List.cons.inj hname
            exact .inr ⟨before, d, after, rfl, hends, hopens⟩

/-- A name and the closing quote as the reader meets them. -/
def closed (name rest : List Char) : List Char :=
  name.flatMap spelled ++ '"' :: rest

theorem closed_nil (rest : List Char) : closed [] rest = '"' :: rest := rfl

theorem closed_cons (c : Char) (name rest : List Char) :
    closed (c :: name) rest = spelled c ++ closed name rest := by
  simp [closed]

theorem opensMark_iff :
    opensMark name = true ↔
      ∃ d c more, (d = '-' ∨ d = '.') ∧ name = d :: d :: d :: c :: more ∧ partsWords c = true := by
  constructor
  · intro h
    unfold opensMark at h
    split at h
    next c more => exact ⟨'-', c, more, .inl rfl, rfl, h⟩
    next c more => exact ⟨'.', c, more, .inr rfl, rfl, h⟩
    · cases h
  · rintro ⟨d, c, more, rfl | rfl, rfl, hc⟩ <;> exact hc

/-- What a character is met as starts with a gap only if it parts words, and with a dash or a dot
only if it is one. -/
theorem exists_spelled_eq_cons (c : Char) :
    ∃ d tail, spelled c = d :: tail ∧ isGap d = partsWords c ∧
      (d = '-' ∨ d = '.' → d = c ∧ tail = []) := by
  cases hparts : partsWords c with
  | true =>
      obtain ⟨hspelled, hgap, -⟩ := spelled_of_partsWords hparts
      refine ⟨unify c, [], hspelled, hgap, ?_⟩
      rintro (hd | hd) <;> rw [hd] at hgap <;> cases hgap
  | false =>
      rw [spelled_eq_nameChar hparts]
      have hspelling := spelling_nameChar c
      generalize nameChar c = word at hspelling
      cases hspelling with
      | code _ _ => exact ⟨'\\', _, rfl, by decide, fun h => absurd h (by decide)⟩
      | letter _ _ _ => exact ⟨'\\', _, rfl, by decide, fun h => absurd h (by decide)⟩
      | self hvisible _ _ =>
          exact ⟨c, [], rfl, (isGap_of_not_partsWords hparts hvisible).1, fun _ => ⟨rfl, rfl⟩⟩

theorem closed_eq_cons_iff {d : Char} {tail : List Char} (hd : d = '-' ∨ d = '.') :
    closed name rest = d :: tail ↔ ∃ more, name = d :: more ∧ tail = closed more rest := by
  constructor
  · intro h
    cases name with
    | nil =>
        rw [closed_nil, List.cons.injEq] at h
        rcases hd with rfl | rfl <;> exact absurd h.1 (by decide)
    | cons c more =>
        obtain ⟨first, others, hspelled, -, hself⟩ := exists_spelled_eq_cons c
        rw [closed_cons, hspelled, List.cons_append, List.cons.injEq] at h
        obtain ⟨rfl, hothers⟩ := h
        obtain ⟨rfl, rfl⟩ := hself hd
        exact ⟨more, rfl, hothers.symm⟩
  · rintro ⟨more, rfl, rfl⟩
    rw [closed_cons]
    rcases hd with rfl | rfl <;> rfl

theorem endsWord_closed_cons (c : Char) (name rest : List Char) :
    endsWord (closed (c :: name) rest) = partsWords c := by
  obtain ⟨first, others, hspelled, hgap, -⟩ := exists_spelled_eq_cons c
  rw [closed_cons, hspelled]
  exact hgap

/-- The reader meets a mark between documents exactly where the name has one. -/
theorem partsDocuments_closed (name rest : List Char) :
    partsDocuments (closed name rest) = opensMark name := by
  rw [Bool.eq_iff_iff, partsDocuments_iff, opensMark_iff]
  constructor
  · rintro ⟨d, tail, hd, hclosed, htail⟩
    obtain ⟨_, rfl, htwo⟩ := (closed_eq_cons_iff hd).mp hclosed
    obtain ⟨_, rfl, hone⟩ := (closed_eq_cons_iff hd).mp htwo.symm
    obtain ⟨more, rfl, rfl⟩ := (closed_eq_cons_iff hd).mp hone.symm
    cases more with
    | nil => cases htail
    | cons c more =>
        rw [endsWord_closed_cons] at htail
        exact ⟨d, c, more, hd, rfl, htail⟩
  · rintro ⟨d, c, more, hd, rfl, hc⟩
    refine ⟨d, closed (c :: more) rest, hd, ?_, (endsWord_closed_cons c more rest).trans hc⟩
    rw [closed_eq_cons_iff hd]
    refine ⟨_, rfl, ((closed_eq_cons_iff hd).mpr ⟨_, rfl, ?_⟩).symm⟩
    exact ((closed_eq_cons_iff hd).mpr ⟨_, rfl, rfl⟩).symm

/-! ## Reading a name -/

/-- What the reader makes of a name.  The gap so far is given latest first. -/
def foldName (gap : List Char) : List Char → List Char
  | [] => foldGap gap.reverse
  | c :: rest =>
      if partsWords c then foldName (unify c :: gap) rest
      else foldGap gap.reverse ++ c :: foldName [] rest

theorem reverse_closeGap (gap text : List Char) :
    (Token.closeGap false gap text).reverse = text.reverse ++ foldGap gap.reverse := by
  simp [Token.closeGap]

/-- The reader goes on after one character of a name, at the start of a line exactly if the character
ends one. -/
theorem quotedFrom_closed_cons {c : Char}
    (hopens : (mark.column == 0 && opensMark (c :: name)) = false) :
    ∃ gap' text' mark', (mark'.column == 0) = endsLine c ∧
      Token.quotedFrom true (Token.between gap) text mark (closed (c :: name) rest) =
        Token.quotedFrom true (Token.between gap') text' mark' (closed name rest) ∧
      text'.reverse ++ foldName gap' name = text.reverse ++ foldName gap (c :: name) := by
  cases hparts : partsWords c with
  | true =>
      -- The gap goes on, and what it stands for is settled by the next word.
      obtain ⟨hspelled, hgap, hbreak, -⟩ := spelled_of_partsWords hparts
      refine ⟨unify c :: gap, text, if endsLine c then mark.nextLine else mark.next, ?_, ?_, ?_⟩
      · cases endsLine c <;> simp
      · rw [closed_cons, hspelled, List.singleton_append, Token.quotedFrom,
          Token.quotedStep_gap _ hgap, hbreak]
      · rw [foldName, if_pos hparts]
  | false =>
      -- The word closes the gap.
      refine ⟨[], c :: Token.closeGap false gap text, mark.skip (spelled c).length, ?_, ?_, ?_⟩
      · obtain ⟨first, others, hspelled, -⟩ := exists_spelled_eq_cons c
        rw [endsLine_of_not_partsWords hparts, hspelled]
        simp [Mark.skip]
      · have hclear : (mark.column == 0 && partsDocuments (spelled c ++ closed name rest)) =
            false := by
          rw [← closed_cons, partsDocuments_closed]
          exact hopens
        rw [closed_cons, standsFor_spelled hparts gap text mark _ hclear]
        rfl
      · rw [foldName, if_neg (by simp [hparts]), List.reverse_cons, reverse_closeGap]
        simp

/-- A name without marks between documents is read up to its closing quote. -/
theorem quotedFrom_closed (gap text rest : List Char) (mark : Mark)
    (hclear : holdsMark (mark.column == 0) name = false) :
    ∃ mark', Token.quotedFrom true (Token.between gap) text mark (closed name rest) =
      some ⟨text.reverse ++ foldName gap name, mark', rest⟩ := by
  induction name generalizing gap text mark with
  | nil =>
      rw [closed_nil, Token.quotedFrom_close, reverse_closeGap]
      exact ⟨_, rfl⟩
  | cons c name ih =>
      rw [holdsMark, Bool.or_eq_false_iff] at hclear
      obtain ⟨gap', text', after, hcolumn, hstep, hfold⟩ := quotedFrom_closed_cons hclear.1
      rw [hstep, ← hfold]
      exact ih _ _ _ (hcolumn.symm ▸ hclear.2)

/-- A mark between documents breaks a name off. -/
theorem quotedFrom_closed_of_holdsMark (gap text rest : List Char) (mark : Mark)
    (hmark : holdsMark (mark.column == 0) name = true) :
    Token.quotedFrom true (Token.between gap) text mark (closed name rest) = none := by
  induction name generalizing gap text mark with
  | nil => cases hmark
  | cons c name ih =>
      cases hopens : mark.column == 0 && opensMark (c :: name) with
      | true =>
          have hparts : (mark.column == 0 && partsDocuments (closed (c :: name) rest)) = true := by
            rw [partsDocuments_closed]
            exact hopens
          rw [Bool.and_eq_true] at hopens
          obtain ⟨d, e, more, hd, hname, -⟩ := opensMark_iff.mp hopens.2
          obtain ⟨rfl, rfl⟩ := List.cons.inj hname
          have hgap : isGap c = false := by rcases hd with rfl | rfl <;> decide
          obtain ⟨tail, htail⟩ : ∃ tail, closed (c :: c :: c :: e :: more) rest = c :: tail :=
            ⟨_, (closed_eq_cons_iff hd).mpr ⟨_, rfl, rfl⟩⟩
          rw [htail] at hparts ⊢
          rw [Token.quotedFrom, hparts, Token.quotedStep_parted hgap]
      | false =>
          rw [holdsMark, hopens, Bool.false_or] at hmark
          obtain ⟨gap', text', after, hcolumn, hstep, -⟩ := quotedFrom_closed_cons hopens
          rw [hstep]
          exact ih _ _ _ (hcolumn.symm ▸ hmark)

/-! ## What the reader makes of a name -/

/-- A name in which no character ends a line comes back as it is. -/
theorem foldName_eq (hname : ∀ c ∈ name, endsLine c = false)
    (hgap : ∀ c ∈ gap, isBreak c = false) : foldName gap name = gap.reverse ++ name := by
  have hfold {gap : List Char} (hgap : ∀ c ∈ gap, isBreak c = false) :
      foldGap gap.reverse = gap.reverse := by
    have hnone : gap.reverse.filter isBreak = [] := by
      simpa [List.filter_eq_nil_iff] using hgap
    rw [foldGap, hnone]
  induction name generalizing gap with
  | nil => rw [foldName, hfold hgap, List.append_nil]
  | cons c name ih =>
      have hends := hname c List.mem_cons_self
      have hrest : ∀ d ∈ name, endsLine d = false := fun d hd =>
        hname d (List.mem_cons_of_mem c hd)
      rw [foldName]
      split
      next hparts =>
        -- The only gap that ends no line is a space.
        have hspace : c = ' ' := by simpa [partsWords, hends] using hparts
        subst hspace
        have hmore : ∀ d ∈ unify ' ' :: gap, isBreak d = false :=
          List.forall_mem_cons.mpr ⟨by decide, hgap⟩
        rw [ih hrest hmore]
        simp [unify]
      · rw [ih hrest (by simp), hfold hgap]
        rfl

theorem all_isBlank_foldGap {gap : List Char} (hgap : gap.all Text.isBlank = true) :
    (foldGap gap).all Text.isBlank = true := by
  have hbreaks : (gap.filter isBreak).all Text.isBlank = true := by
    simp only [List.all_eq_true, List.mem_filter] at hgap ⊢
    exact fun c hc => hgap c hc.1
  unfold foldGap
  split
  · exact hgap
  · decide
  next more hmore =>
    rw [hmore, List.all_cons, Bool.and_eq_true] at hbreaks
    exact hbreaks.2
  · exact hbreaks

/-- A name is blank for the reader exactly if it was. -/
theorem all_isBlank_foldName (hgap : gap.all Text.isBlank = true) :
    (foldName gap name).all Text.isBlank = name.all Text.isBlank := by
  induction name generalizing gap with
  | nil => exact all_isBlank_foldGap (by simpa using hgap)
  | cons c name ih =>
      rw [foldName]
      split
      next hparts =>
        obtain ⟨-, -, -, hunified, hblank⟩ := spelled_of_partsWords hparts
        rw [ih (by rw [List.all_cons, hunified, hgap]; rfl), List.all_cons, hblank, Bool.true_and]
      · rw [List.all_append, all_isBlank_foldGap (by simpa using hgap), List.all_cons, List.all_cons,
          ih rfl, Bool.true_and]

/-- A name as it is read back. -/
def readBack (name : String) : String :=
  String.ofList (foldName [] name.toList)

theorem readBack_eq_self {name : String} (hname : ∀ c ∈ name.toList, endsLine c = false) :
    readBack name = name := by
  rw [readBack, foldName_eq hname (by simp), List.reverse_nil, List.nil_append, String.ofList_toList]

theorem isBlankText_readBack (name : String) :
    Text.isBlankText (readBack name) = Text.isBlankText name := by
  rw [Text.isBlankText, readBack, String.toList_ofList, all_isBlank_foldName rfl]
  rfl

/-- Neither a delete or control character beyond the ASCII ones, nor a separator of lines or
paragraphs, a mark for the order of octets or one of the two that are no characters. -/
def isCommon (c : Char) : Bool :=
  (c.toNat < 0x7F || 0x9F < c.toNat) && !([0x2028, 0x2029, 0xFEFF, 0xFFFE, 0xFFFF].contains c.toNat)

theorem isReadable_of_isCommon {c : Char} (h : isCommon c = true) :
    isReadable c = true ∧ endsLine c = false := by
  simp only [isCommon, List.contains_eq_mem, List.mem_cons, List.not_mem_nil, or_false,
    Bool.and_eq_true, Bool.or_eq_true, decide_eq_true_eq, Bool.not_eq_true',
    decide_eq_false_iff_not, not_or] at h
  obtain ⟨hcontrol, hline, hparagraph, -, hfirst, hsecond⟩ := h
  constructor
  · simp only [isReadable, isLegible, Bool.or_eq_true, Bool.and_eq_true, beq_iff_eq,
      decide_eq_true_eq]
    omega
  · simp only [endsLine, Bool.or_eq_false_iff, beq_eq_false_iff_ne]
    refine ⟨⟨?_, ?_⟩, ?_⟩ <;> rintro rfl
    · exact absurd hcontrol (by decide)
    · exact hline rfl
    · exact hparagraph rfl

end Project

end TypeFixtures
