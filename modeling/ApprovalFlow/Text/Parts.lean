/-!
# Texts cut at a mark

`Text.parts mark s` are the pieces between the marks of a text: one more than there are marks, so
the empty text has one empty piece. `Text.joined` puts a mark between texts. The two are related by
`partsList_append` and `parts_joined`: cutting a text that was joined of others gives the pieces of
the first, then those of the second, and so on.
-/

namespace ApprovalFlow.Text

/-- The pieces of a list of characters between the marks. -/
def partsList (mark : Char) : List Char → List (List Char)
  | [] => [[]]
  | c :: rest =>
    if c = mark then [] :: partsList mark rest
    else
      match partsList mark rest with
      | [] => [[c]]
      | piece :: more => (c :: piece) :: more

/-- The pieces of a text between the marks. -/
def parts (mark : Char) (s : String) : List String :=
  (partsList mark s.toList).map String.ofList

/-- Lists of characters with a mark between them. -/
def joinedLists (mark : Char) : List (List Char) → List Char
  | [] => []
  | [piece] => piece
  | piece :: rest => piece ++ mark :: joinedLists mark rest

/-- Texts with a mark between them. -/
def joined (mark : Char) (pieces : List String) : String :=
  String.ofList (joinedLists mark (pieces.map String.toList))

/-- There is always a piece. -/
theorem partsList_ne_nil (mark : Char) (cs : List Char) : partsList mark cs ≠ [] := by
  cases cs with
  | nil => simp [partsList]
  | cons c rest =>
    unfold partsList
    split
    · simp
    · split <;> simp

/-- Cutting at a mark in the middle. -/
theorem partsList_append (mark : Char) (cs ds : List Char) :
    partsList mark (cs ++ mark :: ds) = partsList mark cs ++ partsList mark ds := by
  induction cs with
  | nil => simp [partsList]
  | cons c rest ih =>
    by_cases h : c = mark
    · simp [partsList, h, ih]
    · simp only [List.cons_append, partsList, h, if_false, ih]
      cases e : partsList mark rest with
      | nil => exact absurd e (partsList_ne_nil mark rest)
      | cons piece more => simp

/-- Cutting what was joined gives the pieces of every part, in order. -/
theorem partsList_joinedLists (mark : Char) {pieces : List (List Char)} (some : pieces ≠ []) :
    partsList mark (joinedLists mark pieces) = pieces.flatMap (partsList mark) := by
  induction pieces with
  | nil => exact absurd rfl some
  | cons piece rest ih =>
    cases rest with
    | nil => simp [joinedLists]
    | cons next more =>
      have later := ih (List.cons_ne_nil next more)
      have first : joinedLists mark (piece :: next :: more) =
        piece ++ mark :: joinedLists mark (next :: more) := rfl
      rw [first, partsList_append, later]
      exact List.flatMap_cons.symm

/-- A text that was joined of others has the pieces of each of them. -/
theorem parts_joined (mark : Char) {texts : List String} (some : texts ≠ []) :
    parts mark (joined mark texts) = texts.flatMap (parts mark) := by
  have pieces : texts.map String.toList ≠ [] := by simpa using some
  unfold parts joined
  rw [String.toList_ofList, partsList_joinedLists mark pieces, List.flatMap_map, List.map_flatMap]

end ApprovalFlow.Text
