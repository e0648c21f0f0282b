import EntitySql.Proofs.Layout.Level

/-!
# The dialects around texts

The built-in dialects concatenate texts with a separator between any two of them, two of the
dialects inside a function call, and lock rows with a plain suffix or not at all.  So each of them
only puts plain texts around others (`nonempty_weaving`), and so does any dialect that keeps the
common decisions.
-/

namespace EntitySql.Dialect

/-- A text before, between and after others; for none of them, those before and after. -/
def surround (opening sep closing : String) : Nat → List String
  | 0 => [opening ++ closing]
  | n + 1 => opening :: (List.replicate n sep ++ [closing])

theorem weaveTexts_replicate (sep closing : String) (parts : List String) :
    weaveTexts (List.replicate parts.length sep ++ [closing]) parts =
      String.join (parts.map (sep ++ ·)) ++ closing := by
  induction parts with
  | nil => simp [weaveTexts]
  | cons part parts ih =>
    rw [List.length_cons, List.replicate_succ, List.cons_append, weaveTexts, ih, List.map_cons,
      String.join_cons, String.append_assoc, String.append_assoc, String.append_assoc]

theorem intercalate_cons (sep part : String) (parts : List String) :
    sep.intercalate (part :: parts) = part ++ String.join (parts.map (sep ++ ·)) := by
  induction parts generalizing part with
  | nil => simp
  | cons next parts ih =>
    rw [String.intercalate_cons_cons, ih, List.map_cons, String.join_cons, String.append_assoc,
      String.append_assoc]

theorem weaveTexts_surround (opening sep closing : String) (parts : List String) :
    weaveTexts (surround opening sep closing parts.length) parts =
      opening ++ sep.intercalate parts ++ closing := by
  cases parts with
  | nil => simp [surround, weaveTexts]
  | cons part parts =>
    rw [List.length_cons, surround, weaveTexts, weaveTexts_replicate, intercalate_cons,
      String.append_assoc, String.append_assoc, String.append_assoc]

theorem filler_surround {opening sep closing : String} (hopening : Filler opening)
    (hsep : Filler sep) (hclosing : Filler closing) (hnone : Filler (opening ++ closing))
    (n : Nat) :
    ∀ t ∈ surround opening sep closing n, Filler t := by
  intro t ht
  cases n with
  -- around no parts the two ends meet in one text
  | zero =>
    obtain rfl := List.mem_singleton.1 ht
    exact hnone
  | succ n =>
    rcases List.mem_cons.1 ht with rfl | ht
    · exact hopening
    · rcases List.mem_append.1 ht with ht | ht
      · rw [List.eq_of_mem_replicate ht]
        exact hsep
      · rw [List.mem_singleton.1 ht]
        exact hclosing

/-! ### Weavings -/

/-- The texts of a dialect with the common decisions, and a plain suffix for locks. -/
def basicWeaving {d : Dialect} (hconcat : d.concat = " || ".intercalate)
    (hfloat : d.floatAsText = fun column => "(" ++ column ++ " || '')")
    (hlock : Filler (d.lock.getD "")) : d.Weaving where
  beforeFloat := "("
  afterFloat := " || '')"
  around := surround "" " || " ""
  floatAsText_eq s := by rw [hfloat]
  concat_eq parts := by
    rw [hconcat, weaveTexts_surround, String.empty_append, String.append_empty]
  filler_beforeFloat := by decide
  filler_afterFloat := by decide
  filler_around := filler_surround (by decide) (by decide) (by decide) (by decide)
  filler_lock := hlock

/-- The texts of PostgreSQL. -/
def postgresWeaving : postgres.Weaving := basicWeaving rfl rfl (by decide)

/-- The texts of SQLite. -/
def sqliteWeaving : sqlite.Weaving := basicWeaving rfl rfl (by decide)

/-- The texts of MySQL. -/
def mysqlWeaving : mysql.Weaving where
  beforeFloat := "CONCAT("
  afterFloat := ",'')"
  around := surround "CONCAT(" "," ")"
  floatAsText_eq _ := rfl
  concat_eq parts := (weaveTexts_surround _ _ _ parts).symm
  filler_beforeFloat := by decide
  filler_afterFloat := by decide
  filler_around := filler_surround (by decide) (by decide) (by decide) (by decide)
  filler_lock := by decide

/-- The texts of SQL Server. -/
def mssqlWeaving : mssql.Weaving where
  beforeFloat := ""
  afterFloat := ""
  around := surround "" " + " ""
  floatAsText_eq s := by rw [String.empty_append, String.append_empty]; rfl
  concat_eq parts := by
    rw [weaveTexts_surround, String.empty_append, String.append_empty]
    rfl
  filler_beforeFloat := by decide
  filler_afterFloat := by decide
  filler_around := filler_surround (by decide) (by decide) (by decide) (by decide)
  filler_lock := by decide

/-- The dialects that the library comes with. -/
def builtIn : List Dialect := [mysql, postgres, sqlite, mssql]

/-- The built-in dialects only put plain texts around others. -/
theorem nonempty_weaving : ∀ d ∈ builtIn, Nonempty d.Weaving := by
  simp only [builtIn, List.forall_mem_cons, List.not_mem_nil, false_implies, implies_true, and_true]
  exact ⟨⟨mysqlWeaving⟩, ⟨postgresWeaving⟩, ⟨sqliteWeaving⟩, ⟨mssqlWeaving⟩⟩

end EntitySql.Dialect
