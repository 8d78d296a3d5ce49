import TraceRelay.Proofs.Toml.Number
import TraceRelay.Proofs.Toml.Quotation
import TraceRelay.Settings.Render

/-!
# Values that are written are read back

A written value denotes a node if reading it, wherever a value can end, gives the node and leaves
what follows. Strings and numbers do so at any depth. A list does so if its items do one level
deeper; the reader's fuel is enough because every item takes more of it than the reader does.
-/

namespace TraceRelay.Toml

open Text

/-- Characters with which blanks, line breaks and comments begin. -/
def isGap (c : Char) : Bool :=
  isBlank c || c = '#' || c = '\n' || c = '\r'

/-- Characters with which a written value begins. -/
def opensValue (c : Char) : Bool :=
  isQuote c || isDigit c || c = '['

/-- What is written denotes a node at a depth. -/
structure Denotes (depth : Nat) (written : List Char) (node : Node) : Prop where
  opens : Begins opensValue written
  read : ∀ fuel rest, written.length < fuel → Begins isEnd rest →
    value? fuel depth (written ++ rest) = some (node, rest)

/-- Enough fuel is one unit and some more. -/
theorem exists_succ_of_lt {n fuel : Nat} (h : n < fuel) : ∃ more, fuel = more + 1 :=
  ⟨fuel - 1, by omega⟩

/-! ## Gaps -/

section Gaps

variable {cs : List Char}

theorem skipBlanks_of_not_gap (h : ¬Begins isGap cs) : skipBlanks cs = cs := by
  refine (takeWhile_of_not_begins ?_).2
  rintro ⟨c, hc, hblank⟩
  exact h ⟨c, hc, by simp [isGap, hblank]⟩

theorem newline?_of_not_gap (h : ¬Begins isGap cs) : newline? cs = none := by
  unfold newline?
  split
  · exact absurd (by simp [isGap]) h
  · exact absurd (by simp [isGap]) h
  · rfl

theorem skipComment_of_not_gap {blanks : List Char} (hblanks : ∀ c ∈ blanks, isBlank c = true)
    (h : ¬Begins isGap cs) : skipComment (blanks ++ cs) = cs := by
  have hskip : skipBlanks (blanks ++ cs) = cs := by
    rw [skipBlanks, List.dropWhile_append_of_pos hblanks]
    exact skipBlanks_of_not_gap h
  unfold skipComment
  rw [hskip]
  split
  · exact absurd (by simp [isGap]) h
  · rfl

/-- Blanks are passed over where no line break or comment follows. -/
theorem skipLines_blanks {blanks : List Char} (hblanks : ∀ c ∈ blanks, isBlank c = true)
    (h : ¬Begins isGap cs) (fuel : Nat) : skipLines (fuel + 1) (blanks ++ cs) = cs := by
  rw [skipLines, skipComment_of_not_gap hblanks h, newline?_of_not_gap h, skipBlanks,
    List.dropWhile_append_of_pos hblanks]
  exact skipBlanks_of_not_gap h

theorem skipLines_of_not_gap (h : ¬Begins isGap cs) (fuel : Nat) :
    skipLines (fuel + 1) cs = cs :=
  @skipLines_blanks cs [] (by simp) h fuel

theorem skipLines_newline (fuel : Nat) (cs : List Char) :
    skipLines (fuel + 1) ('\n' :: cs) = skipLines fuel cs := rfl

theorem opensValue_of_isGap {c : Char} (h : isGap c = true) : opensValue c = false := by
  simp only [isGap, isBlank, Bool.or_eq_true, decide_eq_true_eq] at h
  rcases h with (((rfl | rfl) | rfl) | rfl) | rfl <;> decide

theorem not_gap_of_opens (h : Begins opensValue cs) (rest : List Char) :
    ¬Begins isGap (cs ++ rest) := by
  obtain ⟨c, hc, hopens⟩ := h
  obtain ⟨tail, rfl⟩ := List.head?_eq_some_iff.mp hc
  rw [List.cons_append, begins_cons]
  intro hgap
  rw [opensValue_of_isGap hgap] at hopens
  cases hopens

end Gaps

/-! ## Strings and numbers -/

section Scalars

theorem begins_write (style : Style) (cs : List Char) : Begins isQuote (style.write cs) := by
  cases style <;> simp [Style.write, isQuote]

/-- A written string denotes it. -/
theorem denotes_string (depth : Nat) (s : String) :
    Denotes depth (writeString s) (.string s) := by
  obtain ⟨c, hc, hquote⟩ := begins_write (Style.choose s.toList) s.toList
  obtain ⟨tail, htail⟩ := List.head?_eq_some_iff.mp hc
  have hwritten : writeString s = c :: tail := htail
  refine ⟨⟨c, by rw [hwritten]; rfl, by simp [opensValue, hquote]⟩, ?_⟩
  intro fuel rest hfuel hend
  obtain ⟨fuel, rfl⟩ := exists_succ_of_lt hfuel
  have hread := @string?_writeString rest s (not_begins_of_isEnd hend (by decide))
  rw [hwritten, List.cons_append] at hread ⊢
  have hopen : c = '"' ∨ c = '\'' := by simpa [isQuote] using hquote
  rw [value?, if_pos hopen, hread]
  simp

/-- The digits of a number denote it. -/
theorem denotes_natural (depth : Nat) {n : Nat} (hbound : n ≤ Int64.maxValue.toInt.toNat) :
    Denotes depth n.repr.toList (.integer n) := by
  obtain ⟨c, tail, hwritten, hdigit⟩ := (isRun_toDigits n).exists_cons
  rw [← Nat.toList_repr] at hwritten
  refine ⟨⟨c, by rw [hwritten]; rfl, by simp [opensValue, hdigit]⟩, ?_⟩
  intro fuel rest hfuel hend
  obtain ⟨fuel, rfl⟩ := exists_succ_of_lt hfuel
  have hread := numeric?_repr hbound hend
  rw [hwritten, List.cons_append] at hread ⊢
  have hother : ∀ d, isDigit d = false → c ≠ d := by
    rintro d hd rfl
    rw [hdigit] at hd
    cases hd
  rw [value?, if_neg (not_or.mpr ⟨hother _ rfl, hother _ rfl⟩), if_neg (hother _ rfl),
    if_neg (hother _ rfl), if_pos (.inr (.inr hdigit)), hread]

end Scalars

/-! ## Lists -/

section Lists

/-- A line for each item. -/
def itemLines (items : List (List Char)) : List Char :=
  items.flatMap fun item => "    ".toList ++ item ++ [',', '\n']

variable {depth : Nat}

/-- The line break and the blanks before an item are passed over. -/
theorem skipLines_itemLines_cons {written : List Char} (h : Begins opensValue written)
    (items : List (List Char)) (rest : List Char) :
    let lines := '\n' :: (itemLines (written :: items) ++ rest)
    skipLines (lines.length + 1) lines =
      written ++ ',' :: '\n' :: (itemLines items ++ rest) := by
  have hlines : itemLines (written :: items) ++ rest =
      "    ".toList ++ (written ++ ',' :: '\n' :: (itemLines items ++ rest)) := by
    simp [itemLines]
  dsimp only
  rw [List.length_cons, skipLines_newline, hlines]
  exact skipLines_blanks (by simp [isBlank]) (not_gap_of_opens h _) _

section Comma

variable {written more rest : List Char} {node : Node} {fuel : Nat}

theorem not_gap_comma (more : List Char) : ¬Begins isGap (',' :: more) := by
  simp [isGap, isBlank]

theorem not_gap_bracket (rest : List Char) : ¬Begins isGap (']' :: rest) := by
  simp [isGap, isBlank]

/-- After an item and a comma the list can end. -/
theorem items?_last (h : Denotes depth written node) (hfuel : written.length < fuel)
    (hmore : skipLines (more.length + 1) more = ']' :: rest) :
    items? (fuel + 1) depth (written ++ ',' :: more) = some ([node], rest) := by
  rw [items?, h.read fuel (',' :: more) hfuel (by simp [isEnd])]
  simp [skipLines_of_not_gap (not_gap_comma more), hmore]

/-- After an item and a comma the list can go on. -/
theorem items?_more (h : Denotes depth written node) (hfuel : written.length < fuel)
    {cs : List Char} (hmore : skipLines (more.length + 1) more = cs) (hcs : Begins opensValue cs)
    {items : List Node} (hitems : items? fuel depth cs = some (items, rest)) :
    items? (fuel + 1) depth (written ++ ',' :: more) = some (node :: items, rest) := by
  obtain ⟨c, hc, hopens⟩ := hcs
  obtain ⟨tail, rfl⟩ := List.head?_eq_some_iff.mp hc
  have hbracket : c ≠ ']' := by
    rintro rfl
    cases hopens
  rw [items?, h.read fuel (',' :: more) hfuel (by simp [isEnd])]
  simp [skipLines_of_not_gap (not_gap_comma more), hmore, hbracket, hitems]

end Comma

/-- Items on lines of their own are read one after the other. By induction on the items after the
first. -/
theorem items?_lines {items : List (List Char × Node)}
    (hitems : ∀ item ∈ items, Denotes depth item.1 item.2) {written : List Char} {node : Node}
    (h : Denotes depth written node) {fuel : Nat}
    (hfuel : written.length + (itemLines (items.map Prod.fst)).length + 1 < fuel)
    (rest : List Char) :
    items? fuel depth
        (written ++ ',' :: '\n' :: (itemLines (items.map Prod.fst) ++ ']' :: rest)) =
      some (node :: items.map Prod.snd, rest) := by
  induction items generalizing written node fuel with
  | nil =>
    obtain ⟨fuel, rfl⟩ := exists_succ_of_lt hfuel
    refine items?_last h (by omega) ?_
    exact skipLines_of_not_gap (not_gap_bracket rest) (rest.length + 1)
  | cons item items ih =>
    obtain ⟨hitem, hitems⟩ := List.forall_mem_cons.mp hitems
    obtain ⟨fuel, rfl⟩ := exists_succ_of_lt hfuel
    have hlength : (itemLines ((item :: items).map Prod.fst)).length =
        item.1.length + (itemLines (items.map Prod.fst)).length + 6 := by
      simp [itemLines]
      omega
    have hskip := skipLines_itemLines_cons hitem.opens (items.map Prod.fst) (']' :: rest)
    refine items?_more h ?_ hskip (hitem.opens.append _) (ih hitems hitem ?_)
    · omega
    · omega

/-- One item stands between the brackets. -/
theorem items?_single {written : List Char} {node : Node} (h : Denotes depth written node)
    {fuel : Nat} (hfuel : written.length < fuel) (rest : List Char) :
    items? (fuel + 1) depth (written ++ ']' :: rest) = some ([node], rest) := by
  rw [items?, h.read fuel (']' :: rest) hfuel (by simp [isEnd])]
  simp [skipLines_of_not_gap (not_gap_bracket rest)]

/-- A list that is not empty is read as its items are. -/
theorem value?_of_items {cs rest : List Char} {items : List Node} {fuel : Nat}
    (hdepth : depth + 1 < nestingLimit) {first : List Char}
    (hskip : skipLines (cs.length + 1) cs = first) (hfirst : Begins opensValue first)
    (hitems : items? fuel (depth + 1) first = some (items, rest)) :
    value? (fuel + 1) depth ('[' :: cs) = some (.array items, rest) := by
  obtain ⟨c, hc, hopens⟩ := hfirst
  obtain ⟨tail, rfl⟩ := List.head?_eq_some_iff.mp hc
  have hbracket : c ≠ ']' := by
    rintro rfl
    cases hopens
  rw [value?, if_neg (by decide), if_pos rfl, if_neg (Nat.not_le.mpr hdepth), hskip]
  simp [hbracket, hitems]

/-- **A written list denotes the list of what its items denote.** -/
theorem denotes_list (hdepth : depth + 1 < nestingLimit) {items : List (List Char × Node)}
    (hitems : ∀ item ∈ items, Denotes (depth + 1) item.1 item.2) :
    Denotes depth (Settings.renderList (items.map Prod.fst)) (.array (items.map Prod.snd)) := by
  match items, hitems with
  | [], _ =>
    refine ⟨by simp [Settings.renderList, opensValue], fun fuel rest hfuel _ => ?_⟩
    obtain ⟨fuel, rfl⟩ := exists_succ_of_lt hfuel
    have hskip := skipLines_of_not_gap (not_gap_bracket rest) (rest.length + 1)
    show value? (fuel + 1) depth ('[' :: ']' :: rest) = _
    rw [value?, if_neg (by decide), if_pos rfl, if_neg (Nat.not_le.mpr hdepth)]
    simp [hskip]
  | [item], hitems =>
    have hitem := hitems item List.mem_cons_self
    refine ⟨by simp [Settings.renderList, opensValue], fun fuel rest hfuel _ => ?_⟩
    have hwritten : Settings.renderList ([item].map Prod.fst) ++ rest =
        '[' :: (item.1 ++ ']' :: rest) := by
      simp [Settings.renderList]
    have hlength : item.1.length + 2 < fuel := by simpa [Settings.renderList] using hfuel
    obtain ⟨fuel, rfl⟩ : ∃ more, fuel = more + 2 := ⟨fuel - 2, by omega⟩
    rw [hwritten]
    exact value?_of_items hdepth (skipLines_of_not_gap (not_gap_of_opens hitem.opens _) _)
      (hitem.opens.append _) (items?_single hitem (by omega) rest)
  | first :: second :: items, hitems =>
    obtain ⟨hfirst, hothers⟩ := List.forall_mem_cons.mp hitems
    refine ⟨by simp [Settings.renderList, opensValue], fun fuel rest hfuel _ => ?_⟩
    have hwritten : Settings.renderList ((first :: second :: items).map Prod.fst) =
        '[' :: '\n' :: (itemLines (first.1 :: (second :: items).map Prod.fst) ++ [']']) := by
      simp [Settings.renderList, itemLines]
    have hlength : first.1.length + (itemLines ((second :: items).map Prod.fst)).length + 9 <
        fuel := by
      rw [hwritten] at hfuel
      simp [itemLines] at hfuel ⊢
      omega
    obtain ⟨fuel, rfl⟩ : ∃ more, fuel = more + 1 := ⟨fuel - 1, by omega⟩
    have hskip := skipLines_itemLines_cons hfirst.opens ((second :: items).map Prod.fst)
      (']' :: rest)
    have hitems := @items?_lines _ _ hothers _ _ hfirst fuel (by omega) rest
    have hread := value?_of_items hdepth hskip (hfirst.opens.append _) hitems
    rw [hwritten]
    simpa using hread

end Lists

end TraceRelay.Toml
