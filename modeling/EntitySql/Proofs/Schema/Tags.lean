import EntitySql.Schema.Tags
import Mathlib.Data.List.Count
import Mathlib.Data.List.DropRight
import Mathlib.Data.List.Perm.Basic
import Mathlib.Logic.Relation

/-!
# Tags in any order

The entries of a text of tags are looked at one by one, each as a key and possibly a value
(`keyOf`, `valueOf?`).  Of a flag it counts only if some entry has its key, and of any other tag
which value was given to it last (`parse_intercalate`).

So where no key comes twice, the order of the entries does not count.  Entries of unknown keys never
do, nor does white space around entries, keys and values, nor the case of keys.  `Change` is one
such difference between two lists of entries, and any number of them leaves what is read as it is
(`parse_order_free`).
-/

namespace EntitySql

/-! ### White space -/

namespace Blank

/-- A text of nothing but white space. -/
def IsBlank (s : List Char) : Prop := ∀ c ∈ s, isBlank c = true

instance (s : List Char) : Decidable (IsBlank s) :=
  List.decidableBAll (fun c => isBlank c = true) s

theorem trimStart_append {b : List Char} (hb : IsBlank b) (s : List Char) :
    trimStart (b ++ s) = trimStart s := List.dropWhile_append_of_pos hb

theorem trimEnd_append {b : List Char} (hb : IsBlank b) (s : List Char) :
    trimEnd (s ++ b) = trimEnd s := by
  have hreverse : ∀ c ∈ b.reverse, isBlank c = true := fun c hc => hb c (List.mem_reverse.1 hc)
  rw [trimEnd, List.reverse_append, List.dropWhile_append_of_pos hreverse, trimEnd]

/-- Before a character that is not blank there is only the start to trim. -/
theorem trimStart_append_cons {c : Char} (hc : isBlank c = false) (s t : List Char) :
    trimStart (s ++ c :: t) = trimStart s ++ c :: t := by
  have hkept : (c :: t).dropWhile isBlank = c :: t := List.dropWhile_cons_of_neg (by simp [hc])
  rw [trimStart, List.dropWhile_append, hkept]
  split
  next hempty => rw [trimStart, List.isEmpty_iff.1 hempty, List.nil_append]
  next => rfl

theorem trimEnd_append_cons {c : Char} (hc : isBlank c = false) (s t : List Char) :
    trimEnd (s ++ c :: t) = s ++ c :: trimEnd t := by
  have hreverse : (s ++ c :: t).reverse = t.reverse ++ c :: s.reverse := by simp
  rw [trimEnd, hreverse, ← trimStart, trimStart_append_cons hc]
  simp [trimEnd, trimStart]

theorem trim_append_cons {c : Char} (hc : isBlank c = false) (s t : List Char) :
    trim (s ++ c :: t) = trimStart s ++ c :: trimEnd t := by
  rw [trim, trimStart_append_cons hc, trimEnd_append_cons hc]

theorem trim_of_isBlank {s : List Char} (h : IsBlank s) : trim s = [] := by
  rw [trim, trimStart, List.dropWhile_eq_nil_iff.2 h]
  rfl

/-- White space around a text does not count. -/
theorem trim_append {b b' : List Char} (hb : IsBlank b) (hb' : IsBlank b') (s : List Char) :
    trim (b ++ s ++ b') = trim s := by
  rw [List.append_assoc, trim, trimStart_append hb, ← trim]
  by_cases hs : IsBlank s
  · have hall : IsBlank (s ++ b') := fun c hc => (List.mem_append.1 hc).elim (hs c) (hb' c)
    rw [trim_of_isBlank hs, trim_of_isBlank hall]
  · obtain ⟨c, hc, hvisible⟩ : ∃ c ∈ s, isBlank c = false := by simpa [IsBlank] using hs
    obtain ⟨p, t, rfl⟩ := List.append_of_mem hc
    rw [List.append_assoc, List.cons_append, trim_append_cons hvisible, trim_append_cons hvisible,
      trimEnd_append hb']

theorem mem_of_mem_trim {c : Char} {s : List Char} (h : c ∈ trim s) : c ∈ s := by
  have hstart : c ∈ trimStart s := (List.rdropWhile_prefix isBlank (trimStart s)).subset h
  exact (List.dropWhile_sublist isBlank).subset hstart

theorem trim_trimStart (s : List Char) : trim (trimStart s) = trim s := by
  rw [trim, trimStart, trimStart, List.dropWhile_idempotent, ← trimStart, ← trim]

theorem trim_trimEnd (s : List Char) : trim (trimEnd s) = trim s := by
  have hend : IsBlank (s.reverse.takeWhile isBlank).reverse :=
    fun c hc => List.mem_takeWhile_imp (List.mem_reverse.1 hc)
  have hs : s = [] ++ trimEnd s ++ (s.reverse.takeWhile isBlank).reverse := by
    rw [List.nil_append, trimEnd, ← List.reverse_append, List.takeWhile_append_dropWhile,
      List.reverse_reverse]
  conv_rhs => rw [hs, trim_append (List.forall_mem_nil _) hend]

end Blank

/-! ### Case -/

namespace ColumnTags

/-- Only ASCII letters change in lower case. -/
theorem toLower_of_le {c : Char} (h : 128 ≤ c.toNat) : c.toLower = c := by
  refine dif_neg fun hupper => ?_
  have hle : c.toNat ≤ 'Z'.toNat := UInt32.le_iff_toNat_le.1 hupper.2
  exact absurd (h.trans hle) (by decide)

theorem isBlank_toLower (c : Char) : Blank.isBlank c.toLower = Blank.isBlank c := by
  have hall : ∀ n : Fin 128,
      Blank.isBlank (Char.ofNat n).toLower = Blank.isBlank (Char.ofNat n) := by
    decide
  rcases Nat.lt_or_ge c.toNat 128 with hc | hc
  · simpa using hall ⟨c.toNat, hc⟩
  · rw [toLower_of_le hc]

/-- A separator is no letter in another case. -/
theorem toLower_eq_iff {sep : Char} (hsep : sep = ':' ∨ sep = ';') (c : Char) :
    c.toLower = sep ↔ c = sep := by
  have hall : ∀ n : Fin 128, ((Char.ofNat n).toLower = ':' ↔ Char.ofNat n = ':') ∧
      ((Char.ofNat n).toLower = ';' ↔ Char.ofNat n = ';') := by decide
  rcases Nat.lt_or_ge c.toNat 128 with hc | hc
  · obtain ⟨hcolon, hsemicolon⟩ := hall ⟨c.toNat, hc⟩
    rcases hsep with rfl | rfl
    · simpa using hcolon
    · simpa using hsemicolon
  · rw [toLower_of_le hc]

theorem trim_map_toLower (s : List Char) :
    Blank.trim (s.map Char.toLower) = (Blank.trim s).map Char.toLower := by
  have hclass : Blank.isBlank ∘ Char.toLower = Blank.isBlank := funext isBlank_toLower
  rw [Blank.trim, Blank.trimStart, List.dropWhile_map, hclass, Blank.trimEnd, ← List.map_reverse,
    List.dropWhile_map, hclass, ← List.map_reverse]
  rfl

/-- Texts that differ in case alone have the same separators. -/
theorem mem_of_map_toLower_eq {sep : Char} (hsep : sep = ':' ∨ sep = ';') {k k' : List Char}
    (h : k.map Char.toLower = k'.map Char.toLower) (hmem : sep ∈ k') : sep ∈ k := by
  have hlower : sep ∈ k.map Char.toLower := by
    rw [h]
    exact List.mem_map.2 ⟨sep, hmem, (toLower_eq_iff hsep sep).2 rfl⟩
  obtain ⟨c, hc, hlow⟩ := List.mem_map.1 hlower
  exact (toLower_eq_iff hsep c).1 hlow ▸ hc

/-! ### Cutting at separators -/

theorem splitAll_of_not_mem {sep : Char} {w : List Char} (h : sep ∉ w) : splitAll sep w = [w] := by
  induction w with
  | nil => rfl
  | cons c rest ih =>
    have hc : c ≠ sep := (List.ne_of_not_mem_cons h).symm
    rw [splitAll, if_neg hc, ih (List.not_mem_of_not_mem_cons h)]

theorem splitAll_append_cons {sep : Char} {w : List Char} (h : sep ∉ w) (s : List Char) :
    splitAll sep (w ++ sep :: s) = w :: splitAll sep s := by
  induction w with
  | nil => rw [List.nil_append, splitAll, if_pos rfl]
  | cons c rest ih =>
    have hc : c ≠ sep := (List.ne_of_not_mem_cons h).symm
    rw [List.cons_append, splitAll, if_neg hc, ih (List.not_mem_of_not_mem_cons h)]

/-- A text that is joined is cut where it was joined. -/
theorem splitAll_intercalate {sep : Char} {ws : List (List Char)} (hne : ws ≠ [])
    (h : ∀ w ∈ ws, sep ∉ w) : splitAll sep ([sep].intercalate ws) = ws := by
  induction ws with
  | nil => exact absurd rfl hne
  | cons w rest ih =>
    obtain ⟨hw, hrest⟩ := List.forall_mem_cons.1 h
    cases rest with
    | nil => rw [List.intercalate_singleton, splitAll_of_not_mem hw]
    | cons v rest =>
      rw [List.intercalate_cons_cons, List.append_assoc, List.singleton_append,
        splitAll_append_cons hw, ih (List.cons_ne_nil v rest) hrest]

theorem splitFirst_of_not_mem {sep : Char} {s : List Char} (h : sep ∉ s) :
    splitFirst sep s = none := by
  induction s with
  | nil => rfl
  | cons c rest ih =>
    have hc : c ≠ sep := (List.ne_of_not_mem_cons h).symm
    rw [splitFirst, if_neg hc, ih (List.not_mem_of_not_mem_cons h), Option.map_none]

theorem splitFirst_append_cons {sep : Char} {k : List Char} (h : sep ∉ k) (v : List Char) :
    splitFirst sep (k ++ sep :: v) = some (k, v) := by
  induction k with
  | nil => rw [List.nil_append, splitFirst, if_pos rfl]
  | cons c rest ih =>
    have hc : c ≠ sep := (List.ne_of_not_mem_cons h).symm
    rw [List.cons_append, splitFirst, if_neg hc, ih (List.not_mem_of_not_mem_cons h),
      Option.map_some]

/-! ### Entries -/

/-- The key of an entry: what stands before the first colon, in lower case and without the white
space around it. -/
def keyOf (e : String) : String :=
  String.ofList ((Blank.trim (e.toList.takeWhile (· != ':'))).map Char.toLower)

/-- The value of an entry: what stands behind the first colon, without the white space around it. -/
def valueOf? (e : String) : Option String :=
  if ':' ∈ e.toList then
    some (String.ofList (Blank.trim (e.toList.dropWhile (· != ':')).tail))
  else none

section

variable {e : String} {k v : List Char} (hk : ':' ∉ k)
include hk

theorem keyOf_bare (he : e.toList = k) :
    keyOf e = String.ofList ((Blank.trim k).map Char.toLower) := by
  have hall : ∀ c ∈ k, (c != ':') = true := fun c hc => bne_iff_ne.2 (ne_of_mem_of_not_mem hc hk)
  rw [keyOf, he, List.takeWhile_eq_self_iff.2 hall]

theorem valueOf?_bare (he : e.toList = k) : valueOf? e = none := by
  rw [valueOf?, he, if_neg hk]

theorem keyOf_valued (he : e.toList = k ++ ':' :: v) :
    keyOf e = String.ofList ((Blank.trim k).map Char.toLower) := by
  have hall : ∀ c ∈ k, (c != ':') = true := fun c hc => bne_iff_ne.2 (ne_of_mem_of_not_mem hc hk)
  rw [keyOf, he, List.takeWhile_append_of_pos hall, List.takeWhile_cons_of_neg (by decide),
    List.append_nil]

theorem valueOf?_valued (he : e.toList = k ++ ':' :: v) :
    valueOf? e = some (String.ofList (Blank.trim v)) := by
  have hall : ∀ c ∈ k, (c != ':') = true := fun c hc => bne_iff_ne.2 (ne_of_mem_of_not_mem hc hk)
  rw [valueOf?, he, if_pos (List.mem_append_right k List.mem_cons_self),
    List.dropWhile_append_of_pos hall, List.dropWhile_cons_of_neg (by decide), List.tail_cons]

end

/-- An entry has a colon behind its key, or none at all. -/
theorem bare_or_valued (e : String) :
    ':' ∉ e.toList ∨ ∃ k v, ':' ∉ k ∧ e.toList = k ++ ':' :: v := by
  by_cases he : ':' ∈ e.toList
  · obtain ⟨k, v, hkv, hk⟩ := List.eq_append_cons_of_mem he
    exact .inr ⟨k, v, hk, hkv⟩
  · exact .inl he

/-- What is read from an entry, trimmed as a whole and in its parts, is its key and its value. -/
theorem ofTrimmed_trim (e : String) :
    Entry.ofTrimmed (Blank.trim e.toList) = ⟨(keyOf e).toList, (valueOf? e).map String.toList⟩ := by
  rcases bare_or_valued e with he | ⟨k, v, hk, he⟩
  · have htrim : ':' ∉ Blank.trim e.toList := fun h => he (Blank.mem_of_mem_trim h)
    rw [Entry.ofTrimmed, splitFirst_of_not_mem htrim, keyOf_bare he rfl, valueOf?_bare he rfl,
      String.toList_ofList, Option.map_none]
  · have hstart : ':' ∉ Blank.trimStart k := fun h => hk ((List.dropWhile_sublist _).subset h)
    rw [he, Blank.trim_append_cons (by decide), Entry.ofTrimmed, splitFirst_append_cons hstart,
      keyOf_valued hk he, valueOf?_valued hk he, String.toList_ofList, Option.map_some,
      String.toList_ofList]
    simp only [Blank.trim_trimStart, Blank.trim_trimEnd]

/-! ### What the entries say -/

/-- Whether an entry has a key. -/
def mentions (key : String) (es : List String) : Bool := es.any fun e => keyOf e == key

/-- The values that entries give to a key, in order. -/
def valuesOf (key : String) (es : List String) : List String :=
  (es.filter fun e => keyOf e == key).filterMap valueOf?

/-- The value that is given to a key last, if any is. -/
def lastValue? (key : String) (es : List String) : Option String := (valuesOf key es).getLast?

/-- The tags that entries stand for: a flag is set if its key is mentioned, and any other tag has
the value that its key is given last. -/
def said (es : List String) : ColumnTags where
  primary := mentions "primary" es
  unique := mentions "unique" es
  index := mentions "index" es
  notNull := mentions "not null" es
  autoIncrement := mentions "auto_increment" es
  size := (lastValue? "size" es).bind fun v => readSize? v.toList
  sqlType := lastValue? "type" es
  comment := lastValue? "comment" es
  default := lastValue? "default" es

theorem mentions_concat (key : String) (es : List String) (e : String) :
    mentions key (es ++ [e]) = (mentions key es || keyOf e == key) := by
  simp [mentions]

theorem lastValue?_concat (key : String) (es : List String) (e : String) :
    lastValue? key (es ++ [e]) =
      if keyOf e = key then (valueOf? e).or (lastValue? key es) else lastValue? key es := by
  rw [lastValue?, valuesOf, List.filter_append, List.filterMap_append]
  by_cases hkey : keyOf e = key
  · cases hvalue : valueOf? e with
    | none => simp [hkey, hvalue, lastValue?, valuesOf]
    | some v => simp [hkey, hvalue]
  · simp [hkey, lastValue?, valuesOf]

/-- The keys of flags. -/
def flagKeys : List String := ["primary", "unique", "index", "not null", "auto_increment"]

/-- The keys of the tags that have a value. -/
def valueKeys : List String := ["size", "type", "comment", "default"]

/-- The keys that are not passed over. -/
def knownKeys : List String := flagKeys ++ valueKeys

/-- One more entry changes the tags by what it says. -/
theorem add_said (es : List String) (e : String) :
    (said es).add (Entry.ofTrimmed (Blank.trim e.toList)) = said (es ++ [e]) := by
  rw [ofTrimmed_trim, add, String.ofList_toList]
  simp only [said, mentions_concat, lastValue?_concat]
  generalize keyOf e = key
  by_cases hflag : key ∈ flagKeys
  · obtain rfl | rfl | rfl | rfl | rfl := by
      simpa only [flagKeys, List.mem_cons, List.not_mem_nil, or_false] using hflag
    all_goals simp
  by_cases hvalue : key ∈ valueKeys
  · obtain rfl | rfl | rfl | rfl := by
      simpa only [valueKeys, List.mem_cons, List.not_mem_nil, or_false] using hvalue
    all_goals cases valueOf? e <;> simp
  simp only [flagKeys, valueKeys, List.mem_cons, List.not_mem_nil, or_false, not_or] at hflag hvalue
  cases valueOf? e <;> simp [hflag, hvalue]

theorem foldl_add (es : List String) :
    es.foldl (fun tags e => tags.add (Entry.ofTrimmed (Blank.trim e.toList))) {} = said es := by
  induction es using List.reverseRecOn with
  | nil => rfl
  | append_singleton es e ih => rw [List.foldl_concat, ih, add_said]

/-- A blank entry would change nothing if it was not left out. -/
theorem foldl_entries (s : List Char) (tags : ColumnTags) :
    (entries s).foldl add tags =
      (splitAll ';' s).foldl (fun tags w => tags.add (Entry.ofTrimmed (Blank.trim w))) tags := by
  have hblank (tags : ColumnTags) : tags.add (Entry.ofTrimmed []) = tags := rfl
  rw [entries, List.foldl_map, List.foldl_filter, List.foldl_map]
  congr 1
  funext tags w
  -- an entry of nothing but white space is left out on the left, and adds nothing on the right
  cases htrim : Blank.trim w with
  | nil => exact (hblank tags).symm
  | cons c rest => rfl

/-- What is read from the text of some entries is what they say. -/
theorem parse_intercalate {es : List String} (hes : ∀ e ∈ es, ';' ∉ e.toList) :
    parse (";".intercalate es) = said es := by
  by_cases hnil : es = []
  · subst hnil
    rfl
  · have htexts : ∀ w ∈ es.map String.toList, ';' ∉ w := List.forall_mem_map.2 hes
    have hsplit : splitAll ';' (";".intercalate es).toList = es.map String.toList := by
      rw [String.toList_intercalate]
      exact splitAll_intercalate (mt List.map_eq_nil_iff.1 hnil) htexts
    rw [parse, foldl_entries, hsplit, List.foldl_map, foldl_add]

/-! ### Differences that do not count -/

/-- Entries with a key, with or without a value behind a colon, and with any white space around all
of them. -/
inductive Spells : List Char → Option (List Char) → List Char → Prop
  | bare {k b b' : List Char} (hk : ':' ∉ k) (hb : Blank.IsBlank b) (hb' : Blank.IsBlank b') :
      Spells k none (b ++ k ++ b')
  | valued {k v b b' c c' : List Char} (hk : ':' ∉ k) (hb : Blank.IsBlank b)
      (hb' : Blank.IsBlank b') (hc : Blank.IsBlank c) (hc' : Blank.IsBlank c') :
      Spells k (some v) (b ++ k ++ b' ++ ':' :: (c ++ v ++ c'))

/-- Two entries with the same value, if any, and with the same key but for its case. -/
def Respelled (e f : String) : Prop :=
  ∃ k k' v, k.map Char.toLower = k'.map Char.toLower ∧ Spells k v e.toList ∧ Spells k' v f.toList

/-- An entry that is blank or has no known key. -/
def Noise (n : String) : Prop :=
  Blank.IsBlank n.toList ∨ (';' ∉ n.toList ∧ keyOf n ∉ knownKeys)

/-- One difference between two lists of entries: another order, one more entry that says nothing, or
another spelling of one of them. -/
inductive Change : List String → List String → Prop
  | order {es fs : List String} (h : es.Perm fs) : Change es fs
  | noise {n : String} (h : Noise n) (es fs : List String) : Change (es ++ fs) (es ++ n :: fs)
  | spelling {e f : String} (h : Respelled e f) (es fs : List String) :
      Change (es ++ e :: fs) (es ++ f :: fs)

/-- White space has no separators in it. -/
theorem not_mem_of_isBlank {sep : Char} (hsep : sep = ':' ∨ sep = ';') {b : List Char}
    (hb : Blank.IsBlank b) : sep ∉ b := by
  intro hmem
  have hblank := hb sep hmem
  rcases hsep with rfl | rfl <;> exact absurd hblank (by decide)

/-- Behind its spelling an entry has its key in lower case, and its value. -/
theorem Spells.reads {k s : List Char} {v : Option (List Char)} (h : Spells k v s) {e : String}
    (he : e.toList = s) :
    keyOf e = String.ofList (Blank.trim (k.map Char.toLower)) ∧
      valueOf? e = v.map fun v => String.ofList (Blank.trim v) := by
  -- white space has no colon in it, so the first colon is the one behind the key
  have hkey {b b' : List Char} (hb : Blank.IsBlank b) (hb' : Blank.IsBlank b') (hk : ':' ∉ k) :
      ':' ∉ b ++ k ++ b' ∧ Blank.trim (b ++ k ++ b') = Blank.trim k := by
    refine ⟨?_, Blank.trim_append hb hb' k⟩
    simp only [List.mem_append, not_or]
    exact ⟨⟨not_mem_of_isBlank (.inl rfl) hb, hk⟩, not_mem_of_isBlank (.inl rfl) hb'⟩
  cases h with
  | bare hk hb hb' =>
    obtain ⟨hcolon, htrim⟩ := hkey hb hb' hk
    rw [keyOf_bare hcolon he, valueOf?_bare hcolon he, htrim, trim_map_toLower]
    exact ⟨rfl, rfl⟩
  | valued hk hb hb' hc hc' =>
    obtain ⟨hcolon, htrim⟩ := hkey hb hb' hk
    rw [keyOf_valued hcolon he, valueOf?_valued hcolon he, htrim, trim_map_toLower,
      Blank.trim_append hc hc', Option.map_some]
    exact ⟨rfl, rfl⟩

theorem Respelled.reads {e f : String} (h : Respelled e f) :
    keyOf f = keyOf e ∧ valueOf? f = valueOf? e := by
  obtain ⟨k, k', v, hcase, he, hf⟩ := h
  obtain ⟨hkey, hvalue⟩ := he.reads rfl
  obtain ⟨hkey', hvalue'⟩ := hf.reads rfl
  rw [hkey, hkey', hvalue, hvalue', hcase]
  exact ⟨rfl, rfl⟩

/-- Only the key and the value can have a semicolon in them. -/
theorem Spells.mem_iff {k s : List Char} {v : Option (List Char)} (h : Spells k v s) :
    ';' ∈ s ↔ ';' ∈ k ∨ ∃ w ∈ v, ';' ∈ w := by
  have hblank {b : List Char} (hb : Blank.IsBlank b) : ';' ∉ b := not_mem_of_isBlank (.inr rfl) hb
  cases h with
  | bare hk hb hb' => simp [hblank hb, hblank hb']
  | valued hk hb hb' hc hc' => simp [hblank hb, hblank hb', hblank hc, hblank hc']

/-- Another spelling of an entry is one entry too. -/
theorem Respelled.not_mem {e f : String} (h : Respelled e f) (he : ';' ∉ e.toList) :
    ';' ∉ f.toList := by
  obtain ⟨k, k', v, hcase, hspells, hspells'⟩ := h
  rw [hspells.mem_iff] at he
  rw [hspells'.mem_iff]
  exact mt (Or.imp_left (mem_of_map_toLower_eq (.inr rfl) hcase)) he

theorem Noise.reads {n : String} (h : Noise n) : ';' ∉ n.toList ∧ keyOf n ∉ knownKeys := by
  rcases h with hblank | hunknown
  · refine ⟨not_mem_of_isBlank (.inr rfl) hblank, ?_⟩
    rw [keyOf_bare (not_mem_of_isBlank (.inl rfl) hblank) rfl, Blank.trim_of_isBlank hblank]
    decide
  · exact hunknown

/-! ### Any number of differences -/

/-- What is said depends on the flags that are mentioned and on the last values. -/
theorem said_congr {es fs : List String}
    (hflag : ∀ key ∈ flagKeys, mentions key es = mentions key fs)
    (hvalue : ∀ key ∈ valueKeys, valuesOf key es = valuesOf key fs) : said es = said fs := by
  have hlast {key : String} (hkey : key ∈ valueKeys) : lastValue? key es = lastValue? key fs := by
    rw [lastValue?, hvalue key hkey, lastValue?]
  rw [said, said, hflag "primary" (by decide), hflag "unique" (by decide),
    hflag "index" (by decide), hflag "not null" (by decide), hflag "auto_increment" (by decide),
    hlast (by decide), hlast (by decide), hlast (by decide), hlast (by decide)]

/-- No known key is there twice. -/
def Distinct (es : List String) : Prop :=
  ∀ key ∈ knownKeys, es.countP (fun e => keyOf e == key) ≤ 1

theorem distinct_of_nodup {es : List String} (h : (es.map keyOf).Nodup) : Distinct es := by
  intro key _
  have hcount := List.nodup_iff_count.1 h key
  rwa [List.count_eq_countP, List.countP_map] at hcount

/-- A list of at most one element has one order. -/
theorem eq_of_perm_of_length_le {α : Type} {as bs : List α} (h : as.Perm bs) (hle : as.length ≤ 1) :
    as = bs := by
  match as, hle with
  | [], _ => exact h.nil_eq
  | [a], _ => exact List.singleton_perm.1 h

/-- One difference keeps what is said, and what keeps differences from counting. -/
theorem Change.keeps {es fs : List String} (h : Change es fs) (hes : ∀ e ∈ es, ';' ∉ e.toList)
    (hdistinct : Distinct es) :
    said fs = said es ∧ (∀ e ∈ fs, ';' ∉ e.toList) ∧ Distinct fs := by
  cases h with
  | order h =>
    refine ⟨said_congr (fun key _ => ?_) (fun key hkey => ?_), fun e he => hes e (h.mem_iff.2 he),
      fun key hkey => ?_⟩
    · exact h.symm.any_eq
    · -- the entries of one key are one at most, so their order is the same
      have hle : (es.filter fun e => keyOf e == key).length ≤ 1 := by
        rw [← List.countP_eq_length_filter]
        exact hdistinct key (List.mem_append_right _ hkey)
      rw [valuesOf, valuesOf, eq_of_perm_of_length_le (h.filter _) hle]
    · rw [← h.countP_eq]
      exact hdistinct key hkey
  | @noise n h es fs =>
    -- an entry of no known key is skipped by every question about a known one
    obtain ⟨hsemicolon, hunknown⟩ := h.reads
    have hother {key : String} (hkey : key ∈ knownKeys) : (keyOf n == key) = false :=
      beq_false_of_ne (ne_of_mem_of_not_mem hkey hunknown).symm
    refine ⟨said_congr (fun key hkey => ?_) (fun key hkey => ?_), ?_, fun key hkey => ?_⟩
    · simp [mentions, hother (List.mem_append_left _ hkey)]
    · simp [valuesOf, List.filter_append, hother (List.mem_append_right _ hkey)]
    · simpa [hsemicolon, or_imp, forall_and] using hes
    · simpa [hother hkey] using hdistinct key hkey
  | @spelling e f h es fs =>
    obtain ⟨hkey, hvalue⟩ := h.reads
    refine ⟨said_congr (fun key _ => ?_) (fun key _ => ?_), ?_, fun key hmem => ?_⟩
    · simp [mentions, hkey]
    · simp only [valuesOf, List.filter_append, List.filter_cons, hkey]
      split <;> simp [List.filterMap_cons, hvalue]
    · rw [List.forall_mem_append, List.forall_mem_cons] at hes ⊢
      obtain ⟨hbefore, he, hbehind⟩ := hes
      exact ⟨hbefore, h.not_mem he, hbehind⟩
    · simpa [List.countP_cons, hkey] using hdistinct key hmem

/-- Any number of differences keeps what is said. -/
theorem said_of_changes {es fs : List String} (h : Relation.ReflTransGen Change es fs)
    (hes : ∀ e ∈ es, ';' ∉ e.toList) (hdistinct : Distinct es) :
    said fs = said es ∧ (∀ e ∈ fs, ';' ∉ e.toList) ∧ Distinct fs := by
  induction h with
  | refl => exact ⟨rfl, hes, hdistinct⟩
  | tail _ hchange ih =>
    obtain ⟨hsaid, hplain, hkeys⟩ := ih
    obtain ⟨hsaid', hplain', hkeys'⟩ := hchange.keeps hplain hkeys
    exact ⟨hsaid'.trans hsaid, hplain', hkeys'⟩

/-- Where no key comes twice, tags are read the same from their entries in any order, with any
number of blank entries and entries of unknown keys among them, and with other white space and
another case of keys.  Whatever keys there are, a flag is set if an entry has its key, and any other
tag is what the last value given to its key says. -/
theorem parse_order_free :
    (∀ es fs : List String, (∀ e ∈ es, ';' ∉ e.toList) → (es.map keyOf).Nodup →
      Relation.ReflTransGen Change es fs →
      parse (";".intercalate fs) = parse (";".intercalate es)) ∧
    ∀ es : List String, (∀ e ∈ es, ';' ∉ e.toList) → parse (";".intercalate es) = said es := by
  refine ⟨fun es fs hes hnodup hchanges => ?_, fun es hes => parse_intercalate hes⟩
  -- both texts are read as what their entries say, so the differences are followed on these
  obtain ⟨hsaid, hfs, -⟩ := said_of_changes hchanges hes (distinct_of_nodup hnodup)
  rw [parse_intercalate hes, parse_intercalate hfs, hsaid]

/-- Entries of a size, a flag and a comment. -/
def sizedEntries : List String := ["size:64", "not null", "comment:a : b"]

/-- The flag comes first, in capitals and with white space, and an entry is added.  Of two sizes
the last one counts, which is no number. -/
theorem parse_order_free_sized :
    (∀ e ∈ sizedEntries, ';' ∉ e.toList) ∧ (sizedEntries.map keyOf).Nodup ∧
    parse (";".intercalate [" NOT NULL ", "sizes:1", "size:64", "comment:a : b"]) =
      parse (";".intercalate sizedEntries) ∧
    parse (";".intercalate sizedEntries) =
      { notNull := true, size := some 64, comment := some "a : b" } ∧
    parse (";".intercalate ["size:1", "Unique:no", "SIZE : x"]) = { unique := true } := by
  obtain ⟨hchanged, hsaid⟩ := parse_order_free
  have hes : ∀ e ∈ sizedEntries, ';' ∉ e.toList := by decide
  have hnodup : (sizedEntries.map keyOf).Nodup := by decide
  have horder : Change sizedEntries ["not null", "size:64", "comment:a : b"] := .order (.swap _ _ _)
  have hplain : Spells "not null".toList none ([] ++ "not null".toList ++ []) :=
    .bare (by decide) (by decide) (by decide)
  have hspaced : Spells "NOT NULL".toList none ([' '] ++ "NOT NULL".toList ++ [' ']) :=
    .bare (by decide) (by decide) (by decide)
  have hrespelled : Respelled "not null" " NOT NULL " :=
    ⟨"not null".toList, "NOT NULL".toList, none, by decide, hplain, hspaced⟩
  have hspelling : Change ["not null", "size:64", "comment:a : b"]
      [" NOT NULL ", "size:64", "comment:a : b"] := .spelling hrespelled [] _
  have hnoise : Change [" NOT NULL ", "size:64", "comment:a : b"]
      [" NOT NULL ", "sizes:1", "size:64", "comment:a : b"] :=
    .noise (.inr (by decide)) [" NOT NULL "] _
  refine ⟨hes, hnodup, hchanged _ _ hes hnodup ?_, ?_, ?_⟩
  · exact .tail (.tail (.single horder) hspelling) hnoise
  · rw [hsaid _ hes]
    decide
  · rw [hsaid _ (by decide)]
    decide

end ColumnTags

end EntitySql
