namespace TilePuzzle.Markup

/-- The entities in the order in which they are replaced. The ampersand comes last, so that no
replacement makes up another entity. -/
def entities : List (List Char × Char) :=
  [("&lt;".toList, '<'), ("&gt;".toList, '>'), ("&quot;".toList, '"'), ("&#39;".toList, '\''),
    ("&nbsp;".toList, ' '), ("&amp;".toList, '&')]

def replaceAll (pattern : List Char) (c : Char) : List Char → List Char
  | [] => []
  | x :: xs =>
    if pattern.isPrefixOf (x :: xs) then c :: replaceAll pattern c (xs.drop (pattern.length - 1))
    else x :: replaceAll pattern c xs
termination_by cs => cs.length
decreasing_by
  · simp only [List.length_drop, List.length_cons]; omega
  · simp

def decodeEntities (cs : List Char) : List Char :=
  entities.foldl (fun cs (pattern, c) => replaceAll pattern c cs) cs

end TilePuzzle.Markup
