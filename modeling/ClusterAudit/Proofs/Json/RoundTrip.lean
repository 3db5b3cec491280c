import ClusterAudit.Proofs.Json.Numerals
import ClusterAudit.Proofs.Json.Quoting
import ClusterAudit.Proofs.Manifest.Json
import ClusterAudit.Proofs.Manifest.Written
import Mathlib.Data.List.Forall2

/-!
# JSON that is read back

A value that can come as JSON is written, and its text is read back as the value, where a floating-point
number may be read as another one.
-/

namespace ClusterAudit

/-! ## Floating-point numbers in values -/

namespace Manifest

/-- A scalar with a function applied to it if it is a floating-point number. -/
def Scalar.mapFloat (f : Binary64 → Binary64) : Scalar → Scalar
  | .float x => .float (f x)
  | s => s

namespace Value

mutual

/-- A value with a function applied to its floating-point numbers, those in keys apart. -/
def mapFloats (f : Binary64 → Binary64) : Value → Value
  | .scalar s => .scalar (s.mapFloat f)
  | .list xs => .list (mapFloatsOfList f xs)
  | .map es => .map (mapFloatsOfEntries f es)

def mapFloatsOfList (f : Binary64 → Binary64) : List Value → List Value
  | [] => []
  | x :: rest => x.mapFloats f :: mapFloatsOfList f rest

def mapFloatsOfEntries (f : Binary64 → Binary64) : List Entry → List Entry
  | [] => []
  | (key, v) :: rest => (key, v.mapFloats f) :: mapFloatsOfEntries f rest

end

variable (f : Binary64 → Binary64)

@[simp]
theorem mapFloats_scalar (s : Scalar) : mapFloats f (.scalar s) = .scalar (s.mapFloat f) := by
  rw [mapFloats]

@[simp]
theorem mapFloats_list (xs : List Value) : mapFloats f (.list xs) = .list (xs.map (mapFloats f)) := by
  have helements : mapFloatsOfList f xs = xs.map (mapFloats f) := by
    induction xs with
    | nil => rw [mapFloatsOfList, List.map_nil]
    | cons x rest ih => rw [mapFloatsOfList, List.map_cons, ih]
  rw [mapFloats, helements]

@[simp]
theorem mapFloats_map (es : List Entry) :
    mapFloats f (.map es) = .map (es.map fun entry ↦ (entry.1, entry.2.mapFloats f)) := by
  have hentries : mapFloatsOfEntries f es = es.map fun entry ↦ (entry.1, entry.2.mapFloats f) := by
    induction es with
    | nil => rw [mapFloatsOfEntries, List.map_nil]
    | cons entry rest ih => rw [mapFloatsOfEntries, List.map_cons, ih]
  rw [mapFloats, hentries]

end Value

theorem putEntry_of_notMem {entries : List Entry} {name : String} (v : Value)
    (h : .text name ∉ entries.map (·.1)) :
    putEntry entries (.text name) v = entries ++ [(.text name, v)] := by
  induction entries with
  | nil => rfl
  | cons entry rest ih =>
    obtain ⟨hhead, hrest⟩ := not_or.1 (mt List.mem_cons.2 h)
    have hother : ¬entry.1.same (.text name) = true := by
      rw [Scalar.same_text_right, decide_eq_true_iff]
      exact Ne.symm hhead
    rw [putEntry, if_neg hother, ih hrest, List.cons_append]

/-- Entries with distinct texts as keys are put as they are. -/
theorem putAll_of_nodup {entries puts : List Entry} (htext : ∀ put ∈ puts, put.1.isText = true)
    (hnodup : ((entries ++ puts).map (·.1)).Nodup) : putAll entries puts = entries ++ puts := by
  induction puts generalizing entries with
  | nil => exact (List.append_nil entries).symm
  | cons put rest ih =>
    obtain ⟨hput, hrest⟩ := List.forall_mem_cons.1 htext
    obtain ⟨key, v⟩ := put
    obtain ⟨name, rfl⟩ := Scalar.exists_of_isText hput
    have hnew : .text name ∉ entries.map (·.1) := fun hold ↦ by
      rw [List.map_append] at hnodup
      exact (List.nodup_append.1 hnodup).2.2 _ hold _ List.mem_cons_self rfl
    rw [List.append_cons] at hnodup ⊢
    rw [← ih hrest hnodup, ← putEntry_of_notMem v hnew]
    rfl

end Manifest

namespace Json

open Manifest

/-! ## Scalars -/

/-- The floating-point number that is read for a written one. -/
noncomputable def reread (x : Binary64) : Binary64 :=
  (exists_readsScalar_float x).choose

/-- A scalar that is no text is written, and read back. -/
theorem exists_readsScalar {s : Scalar} (h : s.isJson = true) (htext : s.isText = false) :
    ∃ text, scalar s = .ok text ∧ ReadsScalar text.toList (s.mapFloat reread) := by
  cases s with
  | null => exact ⟨_, rfl, .of_word ⟨'n', _, rfl, by decide⟩ fun rest ↦ rfl⟩
  | bool b =>
    cases b with
    | true => exact ⟨_, rfl, .of_word ⟨'t', _, rfl, by decide⟩ fun rest ↦ rfl⟩
    | false => exact ⟨_, rfl, .of_word ⟨'f', _, rfl, by decide⟩ fun rest ↦ rfl⟩
  | int n =>
    have hwritable : (Value.int n).isWritable = true := by
      simpa [Value.isWritable, Value.everyScalar, Scalar.isWritable] using h
    refine ⟨toString n, Value.display_of_isWritable hwritable, ?_⟩
    rw [Text.toList_toString]
    exact readsScalar_int n
  | float x => exact ⟨_, rfl, (exists_readsScalar_float x).choose_spec⟩
  | text s => cases htext
  | date day => cases h
  | moment time => cases h

/-! ## Blanks -/

theorem skipBlanks_cons {c : Char} (hc : ¬isBlank c) (rest : List Char) :
    skipBlanks (c :: rest) = c :: rest :=
  List.dropWhile_cons_of_neg hc

theorem skipBlanks_append {before : List Char} (hbefore : ∀ c ∈ before, isBlank c) {c : Char}
    (hc : ¬isBlank c) (rest : List Char) : skipBlanks (before ++ c :: rest) = c :: rest := by
  rw [skipBlanks, List.dropWhile_append_of_pos hbefore]
  exact skipBlanks_cons hc rest

theorem isBlank_of_mem_lineStart {layout : Layout} {depth : ℕ} {c : Char}
    (h : c ∈ (layout.lineStart depth).toList) : isBlank c := by
  cases layout with
  | oneLine => cases h
  | indented =>
    have hstart : (Layout.lineStart .indented depth).toList =
        '\n' :: List.replicate (2 * depth) ' ' := by
      have hfeed : "\n".toList = ['\n'] := rfl
      rw [Layout.lineStart, String.toList_append, hfeed, String.toList_ofList]
      rfl
    rw [hstart] at h
    rcases List.mem_cons.1 h with rfl | hspace
    · rfl
    · rw [List.eq_of_mem_replicate hspace]
      rfl

/-! ## Values -/

/-- A text that is read as a value, whatever blanks stand before it and whatever follows it. -/
structure ReadsValue (cs : List Char) (v : Value) : Prop where
  starts : ∃ c rest, cs = c :: rest ∧ ¬isBlank c ∧ c ≠ ']'
  reads : ∀ (fuel : ℕ) (before rest : List Char), 2 * cs.length < fuel → (∀ c ∈ before, isBlank c) →
    Ends rest → readValue fuel (before ++ (cs ++ rest)) = some (v, rest)

theorem not_isBlank_of_isPlainStart {c : Char} (h : isPlainStart c) : ¬isBlank c ∧ c ≠ ']' := by
  constructor
  · intro hblank
    simp only [isBlank, Bool.or_eq_true, decide_eq_true_eq] at hblank
    rcases hblank with ((rfl | rfl) | rfl) | rfl <;> exact absurd h (by decide)
  · rintro rfl
    exact absurd h (by decide)

section

variable {fuel : ℕ}

/-- Blanks before a value are passed over. -/
theorem readValue_blanks {before : List Char} (hbefore : ∀ c ∈ before, isBlank c) {c : Char}
    (hc : ¬isBlank c) (rest : List Char) :
    readValue (fuel + 1) (before ++ c :: rest) = readValue (fuel + 1) (c :: rest) := by
  rw [readValue, readValue, skipBlanks_append hbefore hc, skipBlanks_cons hc]

variable (rest : List Char)

theorem readValue_quote : readValue (fuel + 1) ('"' :: rest) =
    (readText [] rest).map fun (s, after) ↦ (.text s, after) :=
  rfl

theorem readValue_bracket : readValue (fuel + 1) ('[' :: rest) =
    match skipBlanks rest with
    | ']' :: after => some (.list [], after)
    | rest => (readElements fuel rest).map fun (xs, after) ↦ (.list xs, after) :=
  rfl

theorem readValue_brace : readValue (fuel + 1) ('\x7b' :: rest) =
    match skipBlanks rest with
    | '\x7d' :: after => some (.map [], after)
    | rest => (readEntries fuel rest).map fun (es, after) ↦ (.map (putAll [] es), after) :=
  rfl

theorem readValue_plain {c : Char} (hc : isPlainStart c) : readValue (fuel + 1) (c :: rest) =
    (readScalar (c :: rest)).map fun (s, after) ↦ (.scalar s, after) := by
  have hstart (d : Char) (hd : isPlainStart d = false) : c ≠ d := by
    rintro rfl
    rw [hc] at hd
    cases hd
  rw [readValue, skipBlanks_cons (not_isBlank_of_isPlainStart hc).1]
  split
  · rename_i heq
    exact absurd (List.head_eq_of_cons_eq heq) (hstart '"' (by decide))
  · rename_i heq
    exact absurd (List.head_eq_of_cons_eq heq) (hstart '[' (by decide))
  · rename_i heq
    exact absurd (List.head_eq_of_cons_eq heq) (hstart '\x7b' (by decide))
  · rfl

end

theorem readsValue_text (text : String) : ReadsValue (quoted text).toList (.text text) := by
  obtain ⟨inner, hquoted, hreads⟩ := exists_quoted text
  rw [hquoted]
  refine ⟨⟨'"', inner, rfl, by decide, by decide⟩, fun fuel before rest hfuel hbefore _ ↦ ?_⟩
  cases fuel with
  | zero => omega
  | succ fuel =>
    have hquote : ¬isBlank '"' := by decide
    rw [List.cons_append, readValue_blanks hbefore hquote, readValue_quote, hreads]
    rfl

theorem ReadsScalar.readsValue {cs : List Char} {s : Scalar} (h : ReadsScalar cs s) :
    ReadsValue cs (.scalar s) := by
  obtain ⟨c, more, rfl, hc⟩ := h.starts
  obtain ⟨hblank, hbracket⟩ := not_isBlank_of_isPlainStart hc
  refine ⟨⟨c, more, rfl, hblank, hbracket⟩, fun fuel before rest hfuel hbefore hrest ↦ ?_⟩
  cases fuel with
  | zero => omega
  | succ fuel =>
    rw [List.cons_append, readValue_blanks hbefore hblank, readValue_plain _ hc, ← List.cons_append,
      h.reads rest hrest]
    rfl

/-! ## Items in brackets -/

section

variable {gap : List Char}

theorem ends_cons {c : Char} (hc : c = ',' ∨ c = ']' ∨ c = '\x7d' ∨ isBlank c) (rest : List Char) :
    Ends (c :: rest) := by
  rintro d ⟨⟩
  exact hc

theorem ends_gap (hgap : ∀ c ∈ gap, isBlank c) {c : Char}
    (hc : c = ',' ∨ c = ']' ∨ c = '\x7d' ∨ isBlank c) (rest : List Char) :
    Ends (gap ++ c :: rest) := by
  cases gap with
  | nil => exact ends_cons hc rest
  | cons d gap => exact ends_cons (.inr (.inr (.inr (hgap d List.mem_cons_self)))) _

end

/-- How items are read between two brackets, and the value that they make together. -/
structure Bracketing {α : Type} (opening closing : Char) (Reads : List Char → α → Prop)
    (readItems : ℕ → List Char → Option (List α × List Char)) (whole : List α → Value) : Prop where
  opens : ¬isBlank opening ∧ opening ≠ ']'
  closes : ¬isBlank closing
  starts : ∀ {cs x}, Reads cs x → ∃ c rest, cs = c :: rest ∧ ¬isBlank c ∧ c ≠ closing
  /-- An item with a comma after it is read, and then the others. -/
  next : ∀ {cs x}, Reads cs x → ∀ {fuel before}, 2 * cs.length < fuel → (∀ c ∈ before, isBlank c) →
    ∀ rest, readItems (fuel + 1) (before ++ (cs ++ ',' :: rest)) =
      (readItems fuel rest).map fun (xs, after) ↦ (x :: xs, after)
  /-- An item with the closing bracket after it is the last one. -/
  last : ∀ {cs x}, Reads cs x → ∀ {fuel before gap}, 2 * cs.length < fuel →
    (∀ c ∈ before, isBlank c) → (∀ c ∈ gap, isBlank c) →
    ∀ rest, readItems (fuel + 1) (before ++ (cs ++ (gap ++ closing :: rest))) = some ([x], rest)
  empty : ∀ {fuel before}, (∀ c ∈ before, isBlank c) →
    ∀ rest, readValue (fuel + 1) (before ++ opening :: closing :: rest) = some (whole [], rest)
  filled : ∀ {fuel before start c}, (∀ c ∈ before, isBlank c) → (∀ c ∈ start, isBlank c) →
    ¬isBlank c → c ≠ closing →
    ∀ rest, readValue (fuel + 1) (before ++ opening :: (start ++ c :: rest)) =
      (readItems fuel (c :: rest)).map fun (xs, after) ↦ (whole xs, after)

/-- What stands between two brackets that hold something. -/
theorem toList_bracketed {layout : Layout} {depth : ℕ} (opening closing : String) {items : List String}
    (h : items ≠ []) : (bracketed layout opening closing depth items).toList = opening.toList ++
      ((layout.lineStart (depth + 1)).toList ++
        ((',' :: (layout.lineStart (depth + 1)).toList).intercalate (items.map String.toList) ++
          ((layout.lineStart depth).toList ++ closing.toList))) := by
  have hcomma (text : String) : ("," ++ text).toList = ',' :: text.toList := String.toList_append
  rw [bracketed, if_neg (by simpa using h)]
  simp only [String.toList_append, String.toList_intercalate, List.append_assoc]
  rw [← String.toList_append, hcomma]

theorem toList_bracketed_nil {layout : Layout} {depth : ℕ} (opening closing : String) :
    (bracketed layout opening closing depth []).toList = opening.toList ++ closing.toList :=
  String.toList_append

theorem exists_intercalate_cons {α : Type} (separator first : List α) (others : List (List α)) :
    ∃ rest, separator.intercalate (first :: others) = first ++ rest := by
  cases others with
  | nil => exact ⟨[], by rw [List.intercalate_singleton, List.append_nil]⟩
  | cons second others => exact ⟨_, by rw [List.intercalate_cons_cons, List.append_assoc]⟩

namespace Bracketing

variable {α : Type} {opening closing : Char} {Reads : List Char → α → Prop}
  {readItems : ℕ → List Char → Option (List α × List Char)} {whole : List α → Value}
  (b : Bracketing opening closing Reads readItems whole)

include b

/-- Items with commas between them are read up to the closing bracket. -/
theorem readItems_intercalate {start gap : List Char} (hstart : ∀ c ∈ start, isBlank c)
    (hgap : ∀ c ∈ gap, isBlank c) {items : List (List Char)} {xs : List α}
    (h : List.Forall₂ Reads items xs) (hne : items ≠ []) (fuel : ℕ) (before rest : List Char)
    (hfuel : 2 * ((',' :: start).intercalate items).length + 1 < fuel)
    (hbefore : ∀ c ∈ before, isBlank c) :
    readItems fuel (before ++ ((',' :: start).intercalate items ++ (gap ++ closing :: rest))) =
      some (xs, rest) := by
  induction h generalizing fuel before with
  | nil => exact absurd rfl hne
  | @cons item x items xs hitem hitems ih =>
    obtain ⟨fuel, rfl⟩ : ∃ less, fuel = less + 1 := Nat.exists_eq_succ_of_ne_zero (by omega)
    cases hitems with
    | nil =>
      rw [List.intercalate_singleton] at hfuel ⊢
      exact b.last hitem (by omega) hbefore hgap rest
    | cons _ _ =>
      rw [List.intercalate_cons_cons, List.length_append, List.length_append, List.length_cons] at hfuel
      rw [List.intercalate_cons_cons, List.append_assoc, List.append_assoc, List.cons_append,
        b.next hitem (by omega) hbefore, ih (List.cons_ne_nil _ _) fuel start (by omega) hstart]
      rfl

/-- Items that are read one by one are read together between the brackets. -/
theorem readsValue {layout : Layout} {depth : ℕ} {left right : String} (hleft : left.toList = [opening])
    (hright : right.toList = [closing]) {texts : List String} {xs : List α}
    (h : List.Forall₂ (fun text x ↦ Reads text.toList x) texts xs) :
    ReadsValue (bracketed layout left right depth texts).toList (whole xs) := by
  cases h with
  | nil =>
    rw [toList_bracketed_nil, hleft, hright]
    refine ⟨⟨opening, [closing], rfl, b.opens⟩, fun fuel before rest hfuel hbefore _ ↦ ?_⟩
    obtain ⟨fuel, rfl⟩ : ∃ less, fuel = less + 1 := Nat.exists_eq_succ_of_ne_zero (by omega)
    exact b.empty hbefore rest
  | @cons text x others xs hfirst hothers =>
    have hstart : ∀ c ∈ (layout.lineStart (depth + 1)).toList, isBlank c := fun c ↦
      isBlank_of_mem_lineStart
    have hgap : ∀ c ∈ (layout.lineStart depth).toList, isBlank c := fun c ↦ isBlank_of_mem_lineStart
    have hitems : List.Forall₂ Reads ((text :: others).map String.toList) (x :: xs) :=
      List.forall₂_map_left_iff.2 (.cons hfirst hothers)
    have hread := b.readItems_intercalate hstart hgap hitems (List.cons_ne_nil _ _)
    obtain ⟨c, more, htext, hblank, hc⟩ := b.starts hfirst
    obtain ⟨tail, htail⟩ := exists_intercalate_cons (',' :: (layout.lineStart (depth + 1)).toList)
      text.toList (others.map String.toList)
    rw [toList_bracketed left right (List.cons_ne_nil _ _), hleft, hright]
    rw [List.map_cons, htail, htext] at hread ⊢
    refine ⟨⟨opening, _, rfl, b.opens⟩, fun fuel before rest hfuel hbefore _ ↦ ?_⟩
    obtain ⟨fuel, rfl⟩ : ∃ less, fuel = less + 1 := Nat.exists_eq_succ_of_ne_zero (by omega)
    have hrest := hread fuel [] rest
      (by simp only [List.length_append, List.length_cons] at hfuel ⊢; omega) (List.forall_mem_nil _)
    simp only [List.cons_append, List.append_assoc, List.nil_append] at hrest ⊢
    rw [b.filled hbefore hstart hblank hc, hrest]
    rfl

end Bracketing

/-! ## Lists -/

section

variable {cs : List Char} {v : Value} (h : ReadsValue cs v) {fuel : ℕ} (hfuel : 2 * cs.length < fuel)
  {before : List Char} (hbefore : ∀ c ∈ before, isBlank c)

include h hfuel hbefore

/-- One element is read, and then what the next sign calls for. -/
theorem readElements_of_readsValue {rest : List Char} (hrest : Ends rest) :
    readElements (fuel + 1) (before ++ (cs ++ rest)) =
      match skipBlanks rest with
      | ',' :: rest => do
        let (vs, after) ← readElements fuel rest
        return (v :: vs, after)
      | ']' :: after => return ([v], after)
      | _ => none := by
  rw [readElements, h.reads fuel before rest hfuel hbefore hrest]
  rfl

theorem readElements_next (rest : List Char) :
    readElements (fuel + 1) (before ++ (cs ++ ',' :: rest)) =
      (readElements fuel rest).map fun (vs, after) ↦ (v :: vs, after) := by
  have hcomma : skipBlanks (',' :: rest) = ',' :: rest := rfl
  rw [readElements_of_readsValue h hfuel hbefore (ends_cons (.inl rfl) rest), hcomma]
  change (readElements fuel rest >>= fun (vs, after) ↦ pure (v :: vs, after)) = _
  cases readElements fuel rest <;> rfl

theorem readElements_last {gap : List Char} (hgap : ∀ c ∈ gap, isBlank c) (rest : List Char) :
    readElements (fuel + 1) (before ++ (cs ++ (gap ++ ']' :: rest))) = some ([v], rest) := by
  have hbracket : ¬isBlank ']' := by decide
  rw [readElements_of_readsValue h hfuel hbefore (ends_gap hgap (.inr (.inl rfl)) rest),
    skipBlanks_append hgap hbracket]
  rfl

end

theorem bracketing_elements : Bracketing '[' ']' ReadsValue readElements .list where
  opens := by decide
  closes := by decide
  starts h := h.starts
  next h _ _ hfuel hbefore rest := readElements_next h hfuel hbefore rest
  last h _ _ _ hfuel hbefore hgap rest := readElements_last h hfuel hbefore hgap rest
  empty {fuel before} hbefore rest := by
    have hopening : ¬isBlank '[' := by decide
    rw [readValue_blanks hbefore hopening]
    rfl
  filled {fuel before start c} hbefore hstart hblank hc rest := by
    have hopening : ¬isBlank '[' := by decide
    rw [readValue_blanks hbefore hopening, readValue_bracket, skipBlanks_append hstart hblank]
    split
    · rename_i heq
      exact absurd (List.head_eq_of_cons_eq heq) hc
    · rfl

/-! ## Mappings -/

/-- A text that is read as an entry: a key in quotes, a colon and a value. -/
def ReadsEntry (cs : List Char) (entry : Entry) : Prop :=
  ∃ name text, cs = (quoted name).toList ++ ':' :: ' ' :: text ∧ entry.1 = .text name ∧
    ReadsValue text entry.2

theorem ReadsEntry.starts {cs : List Char} {entry : Entry} (h : ReadsEntry cs entry) :
    ∃ c rest, cs = c :: rest ∧ ¬isBlank c ∧ c ≠ '\x7d' := by
  obtain ⟨name, text, rfl, -⟩ := h
  obtain ⟨inner, hquoted, -⟩ := exists_quoted name
  exact ⟨'"', _, by rw [hquoted, List.cons_append], by decide, by decide⟩

section

variable {cs : List Char} {entry : Entry} (h : ReadsEntry cs entry) {fuel : ℕ}
  (hfuel : 2 * cs.length < fuel) {before : List Char} (hbefore : ∀ c ∈ before, isBlank c)

include h hfuel hbefore

/-- One entry is read, and then what the next sign calls for. -/
theorem readEntries_of_readsEntry {rest : List Char} (hrest : Ends rest) :
    readEntries (fuel + 1) (before ++ (cs ++ rest)) =
      match skipBlanks rest with
      | ',' :: rest => do
        let (es, after) ← readEntries fuel rest
        return (entry :: es, after)
      | '\x7d' :: after => return ([entry], after)
      | _ => none := by
  obtain ⟨key, v⟩ := entry
  obtain ⟨name, text, rfl, rfl, htext⟩ := h
  obtain ⟨inner, hquoted, hreads⟩ := exists_quoted name
  have hquote : ¬isBlank '"' := by decide
  have hspace : ∀ c ∈ [' '], isBlank c := List.forall_mem_singleton.2 rfl
  rw [List.length_append, List.length_cons, List.length_cons] at hfuel
  have hvalue : readValue fuel (' ' :: (text ++ rest)) = some (v, rest) :=
    htext.reads fuel [' '] rest (by omega) hspace hrest
  rw [hquoted, readEntries, List.append_assoc, List.cons_append, skipBlanks_append hbefore hquote]
  change (readText [] (inner ++ ':' :: ' ' :: (text ++ rest))).bind _ = _
  rw [hreads, Option.bind_some]
  exact congrArg (Option.bind · _) hvalue

theorem readEntries_next (rest : List Char) :
    readEntries (fuel + 1) (before ++ (cs ++ ',' :: rest)) =
      (readEntries fuel rest).map fun (es, after) ↦ (entry :: es, after) := by
  have hcomma : skipBlanks (',' :: rest) = ',' :: rest := rfl
  rw [readEntries_of_readsEntry h hfuel hbefore (ends_cons (.inl rfl) rest), hcomma]
  change (readEntries fuel rest >>= fun (es, after) ↦ pure (entry :: es, after)) = _
  cases readEntries fuel rest <;> rfl

theorem readEntries_last {gap : List Char} (hgap : ∀ c ∈ gap, isBlank c) (rest : List Char) :
    readEntries (fuel + 1) (before ++ (cs ++ (gap ++ '\x7d' :: rest))) = some ([entry], rest) := by
  have hbracket : ¬isBlank '\x7d' := by decide
  rw [readEntries_of_readsEntry h hfuel hbefore (ends_gap hgap (.inr (.inr (.inl rfl))) rest),
    skipBlanks_append hgap hbracket]
  rfl

end

theorem bracketing_entries :
    Bracketing '\x7b' '\x7d' ReadsEntry readEntries fun es ↦ .map (putAll [] es) where
  opens := by decide
  closes := by decide
  starts h := h.starts
  next h _ _ hfuel hbefore rest := readEntries_next h hfuel hbefore rest
  last h _ _ _ hfuel hbefore hgap rest := readEntries_last h hfuel hbefore hgap rest
  empty {fuel before} hbefore rest := by
    have hopening : ¬isBlank '\x7b' := by decide
    rw [readValue_blanks hbefore hopening]
    rfl
  filled {fuel before start c} hbefore hstart hblank hc rest := by
    have hopening : ¬isBlank '\x7b' := by decide
    rw [readValue_blanks hbefore hopening, readValue_brace, skipBlanks_append hstart hblank]
    split
    · rename_i heq
      exact absurd (List.head_eq_of_cons_eq heq) hc
    · rfl

/-! ## Round trip -/

section

variable {layout : Layout}

theorem exists_writeElements {depth : ℕ} {xs : List Value}
    (h : ∀ x ∈ xs, ∃ text, writeAt layout depth x = .ok text ∧
      ReadsValue text.toList (x.mapFloats reread)) :
    ∃ texts, writeElements layout depth xs = .ok texts ∧
      List.Forall₂ (fun text v ↦ ReadsValue text.toList v) texts (xs.map (Value.mapFloats reread)) := by
  induction xs with
  | nil => exact ⟨[], by rw [writeElements], .nil⟩
  | cons x rest ih =>
    obtain ⟨⟨first, hfirst, hread⟩, hrest⟩ := List.forall_mem_cons.1 h
    obtain ⟨others, hothers, hreads⟩ := ih hrest
    rw [writeElements, hfirst, hothers]
    exact ⟨first :: others, rfl, .cons hread hreads⟩

theorem exists_writeEntries {depth : ℕ} {es : List Entry} (hkeys : ∀ entry ∈ es, entry.1.isText = true)
    (h : ∀ entry ∈ es, ∃ text, writeAt layout depth entry.2 = .ok text ∧
      ReadsValue text.toList (entry.2.mapFloats reread)) :
    ∃ texts, writeEntries layout depth es = .ok texts ∧
      List.Forall₂ (fun text entry ↦ ReadsEntry text.toList entry) texts
        (es.map fun entry ↦ (entry.1, entry.2.mapFloats reread)) := by
  induction es with
  | nil => exact ⟨[], by rw [writeEntries], .nil⟩
  | cons entry rest ih =>
    obtain ⟨hkey, hkeys⟩ := List.forall_mem_cons.1 hkeys
    obtain ⟨⟨text, htext, hread⟩, hrest⟩ := List.forall_mem_cons.1 h
    obtain ⟨others, hothers, hreads⟩ := ih hkeys hrest
    obtain ⟨key, v⟩ := entry
    obtain ⟨name, rfl⟩ := Scalar.exists_of_isText hkey
    have hcolon : ": ".toList = [':', ' '] := rfl
    rw [writeEntries, key, htext, hothers]
    refine ⟨(quoted name ++ ": " ++ text) :: others, rfl,
      .cons ⟨name, text.toList, ?_, rfl, hread⟩ hreads⟩
    rw [String.toList_append, String.toList_append, hcolon, List.append_assoc]
    rfl

/-- A value that can come as JSON is written, and its text is read as the value. -/
theorem exists_writeAt (layout : Layout) {v : Value} (h : v.isJson = true) (depth : ℕ) :
    ∃ text, writeAt layout depth v = .ok text ∧ ReadsValue text.toList (v.mapFloats reread) := by
  induction v using Value.induction generalizing depth with
  | scalar s =>
    rw [Value.isJson_scalar] at h
    rw [writeAt, Value.mapFloats_scalar]
    cases htext : s.isText with
    | true =>
      obtain ⟨text, rfl⟩ := Scalar.exists_of_isText htext
      exact ⟨_, rfl, readsValue_text text⟩
    | false =>
      obtain ⟨text, hwrite, hread⟩ := exists_readsScalar h htext
      exact ⟨text, hwrite, hread.readsValue⟩
  | list xs ih =>
    rw [Value.isJson_list] at h
    obtain ⟨texts, htexts, hreads⟩ := exists_writeElements fun x hx ↦ ih x hx (h x hx) (depth + 1)
    rw [writeAt, htexts, Value.mapFloats_list]
    exact ⟨_, rfl, bracketing_elements.readsValue rfl rfl hreads⟩
  | map es ih =>
    obtain ⟨hkeys, hnodup, hvalues⟩ := Value.isJson_map.1 h
    rw [List.forall_mem_map] at hkeys
    obtain ⟨texts, htexts, hreads⟩ := exists_writeEntries hkeys fun entry hentry ↦
      ih entry hentry (hvalues entry hentry) (depth + 1)
    rw [writeAt, htexts, Value.mapFloats_map]
    have hputs : putAll [] (es.map fun entry ↦ (entry.1, entry.2.mapFloats reread)) =
        es.map fun entry ↦ (entry.1, entry.2.mapFloats reread) :=
      putAll_of_nodup (List.forall_mem_map.2 hkeys) (by rwa [List.nil_append, List.map_map])
    refine ⟨_, rfl, ?_⟩
    rw [← hputs]
    exact bracketing_entries.readsValue rfl rfl hreads

/-- A value that can come as JSON is written, and its text is read back as the value; only its
floating-point numbers may be read as others. -/
theorem exists_read_write {v : Value} (h : v.isJson = true) (layout : Layout) :
    ∃ text, write layout v = .ok text ∧ read text = some (v.mapFloats reread) := by
  obtain ⟨text, hwrite, hread⟩ := exists_writeAt layout h 0
  refine ⟨text, hwrite, ?_⟩
  have hvalue := hread.reads (2 * text.toList.length + 2) [] [] (by omega) (List.forall_mem_nil _) nofun
  rw [List.nil_append, List.append_nil] at hvalue
  rw [read, hvalue]
  rfl

end

end Json

end ClusterAudit
