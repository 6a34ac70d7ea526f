/-!
# Parts of texts

Starts and ends of texts, and texts cut at a mark.
-/

namespace CommitLint.Text

def startsWith (s start : String) : Bool := start.toList.isPrefixOf s.toList

def endsWith (s ending : String) : Bool := ending.toList.isSuffixOf s.toList

/-- What stands before and after the first place where a mark stands, if it stands anywhere. -/
def splitAtFirst? (mark : List Char) : List Char → Option (List Char × List Char)
  | [] => none
  | c :: cs =>
    if mark.isPrefixOf (c :: cs) then some ([], (c :: cs).drop mark.length)
    else (splitAtFirst? mark cs).map fun (before, after) => (c :: before, after)

theorem startsWith_iff (s start : String) :
    startsWith s start = true ↔ ∃ rest, s.toList = start.toList ++ rest := by
  rw [startsWith, List.isPrefixOf_iff_prefix]
  exact ⟨fun ⟨rest, h⟩ => ⟨rest, h.symm⟩, fun ⟨rest, h⟩ => ⟨rest, h.symm⟩⟩

theorem endsWith_iff (s ending : String) :
    endsWith s ending = true ↔ ∃ rest, s.toList = rest ++ ending.toList := by
  rw [endsWith, List.isSuffixOf_iff_suffix]
  exact ⟨fun ⟨rest, h⟩ => ⟨rest, h.symm⟩, fun ⟨rest, h⟩ => ⟨rest, h.symm⟩⟩

/-- Nothing is lost by cutting. -/
theorem eq_append_of_splitAtFirst? {mark cs before after : List Char}
    (h : splitAtFirst? mark cs = some (before, after)) : cs = before ++ mark ++ after := by
  induction cs generalizing before with
  | nil => simp [splitAtFirst?] at h
  | cons c cs ih =>
    rw [splitAtFirst?] at h
    split at h
    · next start =>
      obtain ⟨rest, eq⟩ := List.isPrefixOf_iff_prefix.1 start
      obtain ⟨rfl, rfl⟩ := Prod.mk.inj (Option.some.inj h)
      simp [← eq]
    · obtain ⟨⟨u, v⟩, found, eq⟩ := Option.map_eq_some_iff.1 h
      obtain ⟨rfl, rfl⟩ := Prod.mk.inj eq
      simp [ih found]

end CommitLint.Text
