import DoubleEntry.Page

/-!
# Leafing through a listing

Somebody who wants to see a whole listing asks for one page after another until a page is empty.
`Page.Leafed` says what the pages are.  If every page shows a window on the same records, the pages
are these records cut into pieces, all of which but the last are full: `Page.exists_leafed`.
-/

namespace DoubleEntry.Page

variable {α β : Type} {limit offset : Nat} {records : List α} {pages pages' : List (List α)}
  {ask : Page → Except Error (List α)}

/-- The offset of a page is a number of 32 bits. -/
def offsetBound : Nat := 0x100000000

/-- From an offset on, somebody who asks for pages until one is empty gets these. -/
inductive Leafed (ask : Page → Except Error (List α)) (limit : Nat) : Nat → List (List α) → Prop
  | last {offset : Nat} (fits : offset < offsetBound) (shown : ask ⟨offset, limit⟩ = .ok []) :
      Leafed ask limit offset []
  | turn {offset : Nat} {page : List α} {rest : List (List α)} (fits : offset < offsetBound)
      (shown : ask ⟨offset, limit⟩ = .ok page) (filled : page ≠ [])
      (later : Leafed ask limit (offset + limit) rest) : Leafed ask limit offset (page :: rest)

/-- The pages are determined by what is answered. -/
theorem Leafed.unique (leafed : Leafed ask limit offset pages)
    (leafed' : Leafed ask limit offset pages') : pages' = pages := by
  induction leafed generalizing pages' with
  | last fits shown =>
    cases leafed' with
    | last => rfl
    | turn _ shown' filled => exact absurd (Except.ok.inj (shown'.symm.trans shown)) filled
  | turn fits shown filled later ih =>
    cases leafed' with
    | last _ shown' => exact absurd (Except.ok.inj (shown.symm.trans shown')) filled
    | turn _ shown' _ later' =>
      obtain rfl := Except.ok.inj (shown.symm.trans shown')
      rw [ih later']

/-! ## Windows -/

theorem window_map (page : Page) (f : α → β) (records : List α) :
    page.window (records.map f) = (page.window records).map f := by
  rw [window, window, List.map_take, List.map_drop]

/-- What is in a window is in its place. -/
theorem window_append_drop (offset limit : Nat) (records : List α) :
    (⟨offset, limit⟩ : Page).window records ++ records.drop (offset + limit) =
      records.drop offset := by
  rw [window, ← List.drop_drop]
  exact List.take_append_drop limit _

/-- A window is full if there are records behind it. -/
theorem length_window_of_more (more : records.drop (offset + limit) ≠ []) :
    ((⟨offset, limit⟩ : Page).window records).length = limit := by
  have behind : offset + limit < records.length :=
    Nat.lt_of_not_le fun none => more (List.drop_eq_nil_of_le none)
  simp only [window, List.length_take, List.length_drop]
  omega

/-- A window that is full stays as it is when records are added at the end. -/
theorem window_append_of_full {page : Page} (more : List α)
    (full : (page.window records).length = page.limit) :
    page.window (records ++ more) = page.window records := by
  simp only [window, List.length_take, List.length_drop] at full ⊢
  by_cases inside : page.offset ≤ records.length
  · rw [List.drop_append_of_le_length inside, List.take_append_of_le_length]
    rw [List.length_drop]
    omega
  · have none : page.limit = 0 := by omega
    rw [none, List.take_zero, List.take_zero]

/-! ## Leafing -/

section Leafing

variable {keys : List β} {f : α → β}
  (windows : ∀ page, ∃ shown, ask page = .ok shown ∧ shown.map f = page.window keys)
  (some : 1 ≤ limit) (few : keys.length + limit ≤ offsetBound)

include windows some few

/-- From an offset on, the pages are what lies behind it cut into pieces; all but the last are
full. -/
theorem exists_leafed_from (near : offset < keys.length + limit) :
    ∃ pages, Leafed ask limit offset pages ∧ pages.flatten.map f = keys.drop offset ∧
      ∀ page ∈ pages.dropLast, page.length = limit := by
  induction left : keys.length - offset using Nat.strongRecOn generalizing offset with
  | ind _ ih =>
    have fits : offset < offsetBound := Nat.lt_of_lt_of_le near few
    obtain ⟨page, shown, window⟩ := windows ⟨offset, limit⟩
    by_cases behind : keys.length ≤ offset
    · have none : keys.drop offset = [] := List.drop_eq_nil_of_le behind
      rw [Page.window, none, List.take_nil, List.map_eq_nil_iff] at window
      exact ⟨[], .last fits (window ▸ shown), none.symm, nofun⟩
    · obtain ⟨rest, later, contents, full⟩ :=
        ih (keys.length - (offset + limit)) (by omega) (by omega) rfl
      have length : page.length = ((⟨offset, limit⟩ : Page).window keys).length := by
        rw [← window, List.length_map]
      refine ⟨page :: rest, .turn fits shown ?_ later, ?_, ?_⟩
      · refine List.ne_nil_of_length_pos ?_
        simp only [length, Page.window, List.length_take, List.length_drop]
        omega
      · rw [List.flatten_cons, List.map_append, contents, window, window_append_drop]
      · cases rest with
        | nil => exact nofun
        | cons next others =>
          -- There is another page, and it is not empty.
          have more : keys.drop (offset + limit) ≠ [] := by
            cases later with
            | turn _ _ filled =>
              rw [← contents, List.flatten_cons, List.map_append]
              exact fun none => filled (List.map_eq_nil_iff.1 (List.append_eq_nil_iff.1 none).1)
          rw [List.dropLast_cons_cons]
          exact List.forall_mem_cons.2 ⟨length.trans (length_window_of_more more), full⟩

/-- **Leafing through a listing shows all of it**, in its order, on full pages but for the last. -/
theorem exists_leafed :
    ∃ pages, Leafed ask limit 0 pages ∧ pages.flatten.map f = keys ∧
      ∀ page ∈ pages.dropLast, page.length = limit :=
  exists_leafed_from windows some few (by omega)

end Leafing
end DoubleEntry.Page
