import ClusterAudit.CommandLine.Indices
import ClusterAudit.Proofs.Text.Numerals
import Mathlib.Data.List.Induction

/-!
# Lists of detector positions

A list of positions is read back as the set that it denotes, however the positions are ordered,
repeated and spaced and wherever blank parts stand between them.  Nothing, the empty list and a
malformed list are told apart: blanks alone stand for all detectors, commas among blanks for none, and
one part that is neither blank nor an integer spoils the whole list.
-/

namespace ClusterAudit

namespace Selection

/-! ## Sets of integers -/

theorem mem_insertSorted {m n : Int} {ns : List Int} : m ∈ insertSorted n ns ↔ m = n ∨ m ∈ ns := by
  fun_induction insertSorted n ns with
  | case1 => rw [List.mem_singleton, or_iff_left List.not_mem_nil]
  | case2 k rest hlt => exact List.mem_cons
  | case3 rest hlt => rw [List.mem_cons, or_self_left]
  | case4 k rest hlt hne ih =>
    rw [List.mem_cons, ih, List.mem_cons]
    exact or_left_comm

theorem insertSorted_pairwise {n : Int} {ns : List Int} (h : ns.Pairwise (· < ·)) :
    (insertSorted n ns).Pairwise (· < ·) := by
  fun_induction insertSorted n ns with
  | case1 => exact List.pairwise_singleton _ _
  | case2 k rest hlt =>
    refine List.pairwise_cons.2 ⟨fun m hm ↦ ?_, h⟩
    rcases List.mem_cons.1 hm with rfl | hm
    · exact hlt
    · exact Int.lt_trans hlt (List.rel_of_pairwise_cons h hm)
  | case3 rest hlt => exact h
  | case4 k rest hlt hne ih =>
    obtain ⟨hhead, htail⟩ := List.pairwise_cons.1 h
    refine List.pairwise_cons.2 ⟨fun m hm ↦ ?_, ih htail⟩
    rcases mem_insertSorted.1 hm with rfl | hm
    · omega
    · exact hhead m hm

theorem mem_toSet {n : Int} {ns : List Int} : n ∈ toSet ns ↔ n ∈ ns := by
  unfold toSet
  induction ns with
  | nil => rfl
  | cons k rest ih => rw [List.foldr_cons, mem_insertSorted, ih, List.mem_cons]

theorem toSet_pairwise (ns : List Int) : (toSet ns).Pairwise (· < ·) := by
  unfold toSet
  induction ns with
  | nil => exact .nil
  | cons k rest ih => exact insertSorted_pairwise ih

theorem toSet_eq_nil_iff {ns : List Int} : toSet ns = [] ↔ ns = [] := by
  simp only [List.eq_nil_iff_forall_not_mem, mem_toSet]

/-! ## Parts between commas -/

theorem parts_ne_nil (cs : List Char) : parts cs ≠ [] := by
  fun_induction parts cs <;> simp_all

theorem parts_cons (c : Char) (cs : List Char) :
    parts (c :: cs) = if c = ',' then [] :: parts cs else (parts cs).modifyHead (c :: ·) := by
  obtain ⟨first, others, hparts⟩ := List.exists_cons_of_ne_nil (parts_ne_nil cs)
  rw [parts, hparts]
  rfl

theorem parts_eq_splitOn (cs : List Char) : parts cs = cs.splitOn ',' := by
  rw [List.splitOn_eq_splitOnP]
  induction cs with
  | nil => rfl
  | cons c rest ih =>
    rw [parts_cons, List.splitOnP_cons_eq_if_modifyHead, ih]
    simp only [beq_iff_eq]

/-- The parts of a text that is joined from parts without commas. -/
theorem parts_intercalate {ps : List (List Char)} (hne : ps ≠ []) (h : ∀ part ∈ ps, ',' ∉ part) :
    parts ([','].intercalate ps) = ps := by
  rw [parts_eq_splitOn, List.splitOn_intercalate ',' h hne]

/-- Every character of a text is a comma or in a part. -/
theorem forall_mem_parts {good : Char → Prop} (cs : List Char) :
    (∀ part ∈ parts cs, ∀ c ∈ part, good c) ↔ ∀ c ∈ cs, c = ',' ∨ good c := by
  induction cs with
  | nil => simp [parts]
  | cons c rest ih =>
    rw [parts_cons, List.forall_mem_cons, ← ih]
    by_cases h : c = ','
    · simp [h]
    · obtain ⟨first, others, hparts⟩ := List.exists_cons_of_ne_nil (parts_ne_nil rest)
      simp [h, hparts, and_assoc]

/-! ## Trimming joined parts -/

theorem dropWhile_intercalate {blank : Char → Bool} (h : ¬blank ',') (first : List Char)
    (rest : List (List Char)) :
    ([','].intercalate (first :: rest)).dropWhile blank =
      [','].intercalate (first.dropWhile blank :: rest) := by
  cases rest with
  | nil => simp
  | cons next rest =>
    rw [List.intercalate_cons_cons, List.intercalate_cons_cons, List.append_assoc, List.append_assoc,
      List.dropWhile_append]
    by_cases hfirst : (first.dropWhile blank).isEmpty
    · rw [if_pos hfirst, List.isEmpty_iff.1 hfirst, List.singleton_append,
        List.dropWhile_cons_of_neg h]
      rfl
    · rw [if_neg hfirst]

theorem rdropWhile_append_cons {blank : Char → Bool} {c : Char} (h : ¬blank c)
    (before after : List Char) :
    (before ++ c :: after).rdropWhile blank = before ++ c :: after.rdropWhile blank := by
  induction after using List.reverseRecOn with
  | nil => rw [List.rdropWhile_concat_neg _ _ _ h, List.rdropWhile_nil]
  | append_singleton after last ih =>
    rw [← List.cons_append, ← List.append_assoc, List.rdropWhile_concat, List.rdropWhile_concat, ih]
    by_cases hlast : blank last
    · rw [if_pos hlast, if_pos hlast]
    · rw [if_neg hlast, if_neg hlast, ← List.cons_append, List.append_assoc]

theorem rdropWhile_intercalate {blank : Char → Bool} (h : ¬blank ',') (before : List (List Char))
    (last : List Char) :
    ([','].intercalate (before ++ [last])).rdropWhile blank =
      [','].intercalate (before ++ [last.rdropWhile blank]) := by
  induction before with
  | nil => simp
  | cons first rest ih =>
    rw [List.cons_append, List.cons_append, List.intercalate_cons_of_ne_nil (by simp),
      List.intercalate_cons_of_ne_nil (by simp), List.append_assoc, List.append_assoc,
      List.singleton_append, rdropWhile_append_cons h, ih]
    rfl

/-! ## Written lists -/

/-- A part of a written list: blanks, or an integer of few digits among blanks. -/
inductive ListPart where
  | blank (blanks : List Char) (all_isBlank : ∀ c ∈ blanks, Text.isBlank c)
  | position (before : List Char) (n : Int) (after : List Char)
      (before_isNumeralBlank : ∀ c ∈ before, Text.isNumeralBlank c)
      (after_isNumeralBlank : ∀ c ∈ after, Text.isNumeralBlank c)
      (length_le_digitLimit : (Nat.toDigits 10 n.natAbs).length ≤ Text.digitLimit)

namespace ListPart

def chars : ListPart → List Char
  | blank blanks _ => blanks
  | position before n after _ _ _ => before ++ (toString n).toList ++ after

/-- The integer of a part, if it has one. -/
def integer? : ListPart → Option Int
  | blank _ _ => none
  | position _ n _ _ _ _ => some n

def joined (parts : List ListPart) : List Char :=
  [','].intercalate (parts.map chars)

def integers (parts : List ListPart) : List Int :=
  parts.filterMap integer?

/-- A part without the blanks in front. -/
def trimStart : ListPart → ListPart
  | blank _ _ => blank [] (List.forall_mem_nil _)
  | position _ n after _ hafter hdigits => position [] n after (List.forall_mem_nil _) hafter hdigits

/-- A part without the blanks at its end. -/
def trimEnd : ListPart → ListPart
  | blank _ _ => blank [] (List.forall_mem_nil _)
  | position before n _ hbefore _ hdigits =>
    position before n [] hbefore (List.forall_mem_nil _) hdigits

theorem integer?_trimStart (part : ListPart) : part.trimStart.integer? = part.integer? := by
  cases part <;> rfl

theorem integer?_trimEnd (part : ListPart) : part.trimEnd.integer? = part.integer? := by
  cases part <;> rfl

theorem chars_trimStart (part : ListPart) :
    part.trimStart.chars = part.chars.dropWhile Text.isBlank := by
  cases part with
  | blank blanks h => exact (List.dropWhile_eq_nil_iff.2 h).symm
  | position before n after hbefore hafter hdigits =>
    obtain ⟨c, rest, hdecimal, hc⟩ := Text.exists_decimal_eq_cons n
    rw [trimStart, chars, chars, List.nil_append, List.append_assoc,
      Text.dropWhile_append_of_all fun c hc ↦ Text.isBlank_of_isNumeralBlank (hbefore c hc),
      Text.toList_toString, hdecimal]
    exact (List.dropWhile_cons_of_neg hc).symm

theorem chars_trimEnd (part : ListPart) :
    part.trimEnd.chars = part.chars.rdropWhile Text.isBlank := by
  cases part with
  | blank blanks h => exact (List.rdropWhile_eq_nil_iff.2 h).symm
  | position before n after hbefore hafter hdigits =>
    have hdecimal : ∀ hl : (before ++ Text.decimal n) ≠ [],
        ¬Text.isBlank ((before ++ Text.decimal n).getLast hl) := by
      intro hl
      rw [List.getLast_append_of_ne_nil _ (Text.decimal_ne_nil n)]
      exact Text.not_isBlank_of_mem_decimal (List.getLast_mem _)
    rw [trimEnd, chars, chars, List.append_nil,
      Text.rdropWhile_append_of_all fun c hc ↦ Text.isBlank_of_isNumeralBlank (hafter c hc),
      Text.toList_toString]
    exact (List.rdropWhile_eq_self_iff.2 hdecimal).symm

theorem comma_notMem_chars (part : ListPart) : ',' ∉ part.chars := by
  have hcomma : ¬Text.isBlank ',' := by decide
  cases part with
  | blank blanks h => exact fun hmem ↦ hcomma (h _ hmem)
  | position before n after hbefore hafter hdigits =>
    rw [chars, Text.toList_toString, List.mem_append, List.mem_append]
    rintro ((hmem | hmem) | hmem)
    · exact hcomma (Text.isBlank_of_isNumeralBlank (hbefore _ hmem))
    · rcases Text.eq_minus_or_isDigit_of_mem_decimal hmem with h | h
      · exact absurd h (by decide)
      · exact absurd h (by decide)
    · exact hcomma (Text.isBlank_of_isNumeralBlank (hafter _ hmem))

/-- Trimming a written list leaves a written list of the same integers. -/
theorem exists_joined_eq_trimList {parts : List ListPart} (hne : parts ≠ []) :
    ∃ trimmed : List ListPart, trimmed ≠ [] ∧
      Text.trimList Text.isBlank (joined parts) = joined trimmed ∧
      integers trimmed = integers parts := by
  have hcomma : ¬Text.isBlank ',' := by decide
  obtain ⟨first, rest, rfl⟩ := List.exists_cons_of_ne_nil hne
  have hstart : (joined (first :: rest)).dropWhile Text.isBlank =
      joined (first.trimStart :: rest) := by
    rw [joined, List.map_cons, dropWhile_intercalate hcomma, ← chars_trimStart]
    rfl
  obtain ⟨before, last, hlast⟩ := (List.eq_nil_or_concat' (first.trimStart :: rest)).resolve_left
    (List.cons_ne_nil _ _)
  refine ⟨before ++ [last.trimEnd], by simp, ?_, ?_⟩
  · rw [Text.trimList_eq_rdropWhile, hstart, hlast, joined, List.map_append, List.map_singleton,
      rdropWhile_intercalate hcomma, ← chars_trimEnd, joined, List.map_append, List.map_singleton]
  · calc
      integers (before ++ [last.trimEnd]) = integers (before ++ [last]) := by
        simp only [integers, List.filterMap_append, List.filterMap_cons, integer?_trimEnd]
      _ = integers (first :: rest) := by
        rw [← hlast]
        simp only [integers, List.filterMap_cons, integer?_trimStart]

theorem readParts_chars (parts : List ListPart) :
    readParts (parts.map chars) = some (integers parts) := by
  induction parts with
  | nil => rfl
  | cons part rest ih =>
    cases part with
    | blank blanks h =>
      rw [List.map_cons, readParts, chars, if_pos (List.all_eq_true.2 h), ih]
      rfl
    | position before n after hbefore hafter hdigits =>
      have hnotBlank : ¬(before ++ Text.decimal n ++ after).all Text.isBlank := by
        obtain ⟨c, rest, hdecimal, hc⟩ := Text.exists_decimal_eq_cons n
        simp [hdecimal, hc]
      rw [List.map_cons, readParts, chars, Text.toList_toString, if_neg hnotBlank,
        Text.readInteger_decimal hbefore hafter hdigits, ih]
      rfl

end ListPart

/-! ## Reading -/

theorem readParts_eq_nil_iff {ps : List (List Char)} :
    readParts ps = some [] ↔ ∀ part ∈ ps, ∀ c ∈ part, Text.isBlank c := by
  induction ps with
  | nil => simp [readParts]
  | cons part rest ih =>
    rw [readParts, List.forall_mem_cons]
    by_cases hpart : part.all Text.isBlank
    · rw [if_pos hpart, ih]
      exact (and_iff_right (List.all_eq_true.1 hpart)).symm
    · rw [if_neg hpart]
      refine iff_of_false ?_ fun h ↦ hpart (List.all_eq_true.2 h.1)
      split <;> simp

/-- One part that is neither blank nor an integer spoils all, and nothing else does. -/
theorem readParts_eq_none_iff {ps : List (List Char)} :
    readParts ps = none ↔
      ∃ part ∈ ps, (∃ c ∈ part, ¬Text.isBlank c) ∧
        ∀ n, Text.readInteger (String.ofList part) ≠ .ok n := by
  induction ps with
  | nil => simp [readParts]
  | cons part rest ih =>
    rw [readParts, List.exists_mem_cons_iff, ← ih]
    by_cases hpart : part.all Text.isBlank
    · rw [if_pos hpart]
      refine (or_iff_right ?_).symm
      rintro ⟨⟨c, hc, hnot⟩, -⟩
      exact hnot (List.all_eq_true.1 hpart c hc)
    · rw [if_neg hpart]
      have hblank : ∃ c ∈ part, ¬Text.isBlank c := by simpa using hpart
      cases hread : Text.readInteger (String.ofList part) with
      | ok n =>
        cases readParts rest <;> simp
      | error fault => exact iff_of_true rfl (.inl ⟨hblank, fun n h ↦ nomatch h⟩)

theorem read_eq_none_iff (text : String) :
    read text = .ok none ↔ ∀ c ∈ text.toList, Text.isBlank c := by
  rw [← Text.trimList_eq_nil_iff, ← List.isEmpty_iff]
  unfold read
  dsimp only
  split
  case isTrue h => exact iff_of_true rfl h
  case isFalse h =>
    refine iff_of_false ?_ h
    split <;> simp

/-- What is read when something is left between the blanks. -/
theorem read_of_trimList_ne_nil {text : String}
    (h : Text.trimList Text.isBlank text.toList ≠ []) :
    read text =
      match readParts (parts (Text.trimList Text.isBlank text.toList)) with
      | some ns => .ok (some (toSet ns))
      | none => .error (Text.trim text) := by
  unfold read
  dsimp only
  rw [if_neg (mt List.isEmpty_iff.1 h)]
  rfl

theorem read_joined {written : List ListPart} (h : ListPart.integers written ≠ []) :
    read (String.ofList (ListPart.joined written)) =
      .ok (some (toSet (ListPart.integers written))) := by
  have hne : written ≠ [] := by
    rintro rfl
    exact h rfl
  obtain ⟨trimmed, htrimmed, hjoined, hintegers⟩ := ListPart.exists_joined_eq_trimList hne
  have hparts : readParts (parts (ListPart.joined trimmed)) = some (ListPart.integers written) := by
    rw [ListPart.joined, parts_intercalate (by simpa using htrimmed), ListPart.readParts_chars,
      hintegers]
    exact List.forall_mem_map.2 fun part _ ↦ part.comma_notMem_chars
  have hleft : ListPart.joined trimmed ≠ [] := by
    intro hnil
    rw [hnil] at hparts
    exact h (Option.some.inj hparts).symm
  rw [read_of_trimList_ne_nil (by rwa [String.toList_ofList, hjoined]), String.toList_ofList, hjoined,
    hparts]

theorem read_eq_empty_iff (text : String) :
    read text = .ok (some []) ↔
      ',' ∈ text.toList ∧ ∀ c ∈ text.toList, c = ',' ∨ Text.isBlank c := by
  by_cases hblank : ∀ c ∈ text.toList, Text.isBlank c
  · rw [(read_eq_none_iff text).2 hblank]
    refine iff_of_false (by simp) fun h ↦ ?_
    exact absurd (hblank _ h.1) (by decide)
  · have hleft := mt Text.trimList_eq_nil_iff.1 hblank
    have hcomma : (∀ c ∈ text.toList, c = ',' ∨ Text.isBlank c) → ',' ∈ text.toList := by
      intro h
      obtain ⟨c, hc, hnot⟩ : ∃ c ∈ text.toList, ¬Text.isBlank c := by simpa using hblank
      exact (h c hc).resolve_right hnot ▸ hc
    have hread : read text = .ok (some []) ↔
        readParts (parts (Text.trimList Text.isBlank text.toList)) = some [] := by
      rw [read_of_trimList_ne_nil hleft]
      cases readParts (parts (Text.trimList Text.isBlank text.toList)) with
      | none => simp
      | some ns => simp [toSet_eq_nil_iff]
    rw [hread, readParts_eq_nil_iff, forall_mem_parts,
      Text.forall_mem_trimList (fun c ↦ c = ',' ∨ Text.isBlank c = true) fun _ ↦ .inr]
    exact ⟨fun h ↦ ⟨hcomma h, h⟩, And.right⟩

theorem read_eq_error_iff (text : String) :
    read text = .error (Text.trim text) ↔
      ∃ part ∈ (Text.trim text).toList.splitOn ',', (∃ c ∈ part, ¬Text.isBlank c) ∧
        ∀ n, Text.readInteger (String.ofList part) ≠ .ok n := by
  rw [← parts_eq_splitOn, ← readParts_eq_none_iff, Text.trim, String.toList_ofList, ← Text.trim]
  by_cases hleft : Text.trimList Text.isBlank text.toList = []
  · rw [(read_eq_none_iff text).2 (Text.trimList_eq_nil_iff.1 hleft), hleft]
    exact iff_of_false (by simp) (by decide)
  · rw [read_of_trimList_ne_nil hleft]
    cases readParts (parts (Text.trimList Text.isBlank text.toList)) <;> simp

end Selection

/-! ## Selecting -/

/-- The detectors at the given positions are kept, in the order of the list. -/
theorem selectFrom_eq (indices : List Int) (position : Nat) (detectors : List Detector) :
    selectFrom position indices detectors =
      ((detectors.zipIdx position).filter fun entry ↦ indices.contains (entry.2 : Int)).map (·.1) := by
  induction detectors generalizing position with
  | nil => rfl
  | cons detector rest ih =>
    have hrest := ih (position + 1)
    push_cast at hrest
    rw [selectFrom, List.zipIdx_cons, List.filter_cons, hrest]
    cases indices.contains (position : Int) with
    | true => rfl
    | false => rfl

namespace Selection

/-- A written list of integers is read as the set of these integers, which selects the detectors at
these positions of any catalog, in its order.  Blanks alone are read as no list, commas among blanks as
the empty set, and exactly the texts with a part that is neither blank nor an integer are refused; the
blanks at the ends of a text belong to no part. -/
theorem read_denotes_positions :
    (∀ written : List ListPart, ListPart.integers written ≠ [] →
      ∃ set, read (String.ofList (ListPart.joined written)) = .ok (some set) ∧
        (∀ n, n ∈ set ↔ n ∈ ListPart.integers written) ∧ set.Pairwise (· < ·) ∧
        ∀ detectors, select detectors (some set) =
          ((detectors.zipIdx 1).filter fun entry ↦
            (entry.2 : Int) ∈ ListPart.integers written).map (·.1)) ∧
    (∀ text, read text = .ok none ↔ ∀ c ∈ text.toList, Text.isBlank c) ∧
    (∀ text, read text = .ok (some []) ↔
      ',' ∈ text.toList ∧ ∀ c ∈ text.toList, c = ',' ∨ Text.isBlank c) ∧
    ∀ text, read text = .error (Text.trim text) ↔
      ∃ part ∈ (Text.trim text).toList.splitOn ',', (∃ c ∈ part, ¬Text.isBlank c) ∧
        ∀ n, Text.readInteger (String.ofList part) ≠ .ok n := by
  refine ⟨fun written h ↦ ⟨_, read_joined h, fun n ↦ mem_toSet, toSet_pairwise _, fun detectors ↦ ?_⟩,
    read_eq_none_iff, read_eq_empty_iff, read_eq_error_iff⟩
  rw [select]
  refine (selectFrom_eq _ 1 detectors).trans ?_
  simp only [List.contains_eq_mem, mem_toSet]

/-- The positions three, minus one and three again, with spaces and a part that is blank. -/
def spacedPositions : List ListPart :=
  have hspace : ∀ c ∈ [' '], Text.isNumeralBlank c := List.forall_mem_singleton.2 rfl
  [.position [' '] 3 [] hspace (List.forall_mem_nil _) (by decide), .blank [] (List.forall_mem_nil _),
    .position [] (-1) [] (List.forall_mem_nil _) (List.forall_mem_nil _) (by decide),
    .position [' '] 3 [' '] hspace hspace (by decide)]

theorem read_denotes_positions_spaced :
    ListPart.integers spacedPositions ≠ [] ∧
    ∃ set, read " 3,,-1, 3 " = .ok (some set) ∧ (∀ n, n ∈ set ↔ n = 3 ∨ n = -1) ∧
      ∀ detectors, select detectors (some set) =
        ((detectors.zipIdx 1).filter fun entry ↦ (entry.2 : Int) ∈ [3, -1, 3]).map (·.1) := by
  have hintegers : ListPart.integers spacedPositions ≠ [] := by decide
  obtain ⟨set, hread, hset, -, hselect⟩ := read_denotes_positions.1 spacedPositions hintegers
  refine ⟨hintegers, set, hread, fun n ↦ ?_, hselect⟩
  have hspaced : ListPart.integers spacedPositions = [3, -1, 3] := rfl
  rw [hset, hspaced]
  simp only [List.mem_cons, List.not_mem_nil, or_false]
  omega

end Selection

end ClusterAudit
