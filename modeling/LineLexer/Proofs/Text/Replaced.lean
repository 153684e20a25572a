/-
Putting another line in the place of one.

A line of a text is its piece between two line feeds, without the carriage return that may
end it.  What is put in its place leaves the line end as it was, so nothing but that line
changes: the pieces before it and after it are the same ones.
-/
import LineLexer.Proofs.Text.Lines

namespace LineLexer.Text

/-- The carriage return at the end of a piece, if there is one. -/
def lineEnd (raw : Text) : Text := if raw.getLast? = some '\r' then ['\r'] else []

/-- The text with its line number `i` edited. -/
def replaceLine (t : Text) (i : Nat) (edit : Text → Text) : Text :=
  ['\n'].intercalate (t.rawLines.modify i fun raw => edit (stripReturn raw) ++ lineEnd raw)

theorem stripReturn_append_lineEnd (raw : Text) : stripReturn raw ++ lineEnd raw = raw := by
  unfold stripReturn lineEnd
  split
  · rename_i hlast
    obtain ⟨body, rfl⟩ := List.getLast?_eq_some_iff.mp hlast
    simp
  · simp

/-- A text is read back from its line if it ends with a carriage return only where the line does. -/
theorem stripReturn_append_lineEnd_of {t raw : Text}
    (h : t.getLast? = some '\r' → raw.getLast? = some '\r') :
    stripReturn (t ++ lineEnd raw) = t := by
  unfold lineEnd
  split
  · simp [stripReturn]
  · rename_i hlast
    rw [List.append_nil, stripReturn, if_neg fun ht => hlast (h ht)]

/-- So is one that ends as the line does. -/
theorem stripReturn_append_append_lineEnd {b t raw : Text} (ht : t <:+ stripReturn raw)
    (hbefore : t = [] → b.getLast? ≠ some '\r') :
    stripReturn (b ++ t ++ lineEnd raw) = b ++ t := by
  refine stripReturn_append_lineEnd_of ?_
  intro hlast
  by_cases hreturn : raw.getLast? = some '\r'
  · exact hreturn
  · rw [stripReturn, if_neg hreturn] at ht
    obtain ⟨start, rfl⟩ := ht
    rcases List.eq_nil_or_concat t with rfl | ⟨body, c, rfl⟩
    · rw [List.append_nil] at hlast
      exact absurd hlast (hbefore rfl)
    · simpa using hlast

/-- A line that is replaced by itself is not replaced. -/
theorem replaceLine_id (t : Text) (i : Nat) : t.replaceLine i id = t := by
  have hedit : (fun raw : Text => id (stripReturn raw) ++ lineEnd raw) = id := by
    funext raw
    exact stripReturn_append_lineEnd raw
  rw [replaceLine, hedit, List.modify_id]
  exact List.intercalate_splitOn _

/-- **Only the line that is replaced changes.** -/
theorem rawLines_replaceLine {t raw : Text} {earlier later : List Text} {edit : Text → Text}
    (hraws : t.rawLines = earlier ++ raw :: later) (hedit : '\n' ∉ edit (stripReturn raw)) :
    rawLines (t.replaceLine earlier.length edit) =
      earlier ++ (edit (stripReturn raw) ++ lineEnd raw) :: later := by
  have hmodify : t.rawLines.modify earlier.length
      (fun raw => edit (stripReturn raw) ++ lineEnd raw) =
        earlier ++ (edit (stripReturn raw) ++ lineEnd raw) :: later := by
    rw [List.modify_eq_take_cons_drop (by simp [hraws])]
    simp [hraws]
  rw [replaceLine, hmodify]
  refine List.splitOn_intercalate _ ?_ (by simp)
  have hkept : ∀ line ∈ earlier ++ raw :: later, '\n' ∉ line := by
    intro line hline
    exact not_mem_of_mem_rawLines (by rw [hraws]; exact hline)
  intro line hline
  rcases List.mem_append.mp hline with hline | hline
  · exact hkept line (List.mem_append_left _ hline)
  · rcases List.mem_cons.mp hline with rfl | hline
    · have hend : '\n' ∉ lineEnd raw := by
        unfold lineEnd
        split <;> simp
      simp [hedit, hend]
    · exact hkept line (List.mem_append_right _ (List.mem_cons_of_mem _ hline))

end LineLexer.Text
