import TilePuzzle.Toml.Document

namespace TilePuzzle.Toml

/-- Values that hold no integer of more than sixty-four bits. -/
inductive Value.InRange : Value → Prop
  | text (s : String) : InRange (.text s)
  | integer {z : Int} (hl : -9223372036854775808 ≤ z) (hu : z ≤ 9223372036854775807) :
      InRange (.integer z)
  | float : InRange .float
  | boolean (b : Bool) : InRange (.boolean b)
  | date : InRange .date
  | list {vs : List Value} (h : ∀ v ∈ vs, InRange v) : InRange (.list vs)
  | table (origin : Origin) {es : Entries} (h : ∀ e ∈ es, InRange e.2) : InRange (.table origin es)
  | tables {elements : List Entries} (h : ∀ es ∈ elements, ∀ e ∈ es, InRange e.2) :
      InRange (.tables elements)

def Entries.InRange (es : Entries) : Prop :=
  ∀ e ∈ es, e.2.InRange

def ReadsInRange (item : List Char → Option (Value × List Char)) : Prop :=
  ∀ ⦃cs v rest⦄, item cs = some (v, rest) → v.InRange

variable {cs rest : List Char} {v : Value} {vs : List Value} {es es' : Entries}
variable {item : List Char → Option (Value × List Char)} {path : List String} {key : String}

namespace Entries

theorem InRange.find? (h : es.InRange) (hf : es.find? key = some v) : v.InRange := by
  obtain ⟨e, he, rfl⟩ := Option.map_eq_some_iff.1 hf
  exact h e (List.mem_of_find?_eq_some he)

theorem InRange.concat (h : es.InRange) (hv : v.InRange) : InRange (es ++ [(key, v)]) := by
  intro e he
  rcases List.mem_append.1 he with he | he
  · exact h e he
  · rw [List.mem_singleton.1 he]
    exact hv

theorem InRange.replace (h : es.InRange) (hv : v.InRange) : InRange (es.replace key v) := by
  intro e he
  obtain ⟨e', he', rfl⟩ := List.mem_map.1 he
  split
  · exact hv
  · exact h e' he'

theorem InRange.update {dotted : Bool} {change : Origin → Entries → Option Entries}
    {origin : Origin}
    (hc : ∀ origin {es es'}, InRange es → change origin es = some es' → InRange es')
    (h : es.InRange) (hu : Entries.update dotted change path origin es = some es') :
    es'.InRange := by
  induction path generalizing origin es es' with
  | nil => exact hc _ h hu
  | cons key path ih =>
      rw [Entries.update] at hu
      -- The table is a new one, one that is there, or the last of several.
      split at hu
      next =>
        obtain ⟨inner, hi, rfl⟩ := Option.map_eq_some_iff.1 hu
        exact h.concat (.table _ (ih (List.forall_mem_nil _) hi))
      next hf =>
        split at hu
        · cases hu
        · obtain ⟨inner, hi, rfl⟩ := Option.map_eq_some_iff.1 hu
          cases h.find? hf with
          | table _ ht => exact h.replace (.table _ (ih ht hi))
      next hf =>
        split at hu
        · cases hu
        next hl =>
          obtain ⟨last, hi, rfl⟩ := Option.map_eq_some_iff.1 hu
          cases h.find? hf with
          | tables ht =>
              have hl := List.mem_of_getLast? hl
              refine h.replace (.tables fun es he => ?_)
              rcases List.mem_append.1 he with he | he
              · exact ht es (List.dropLast_subset _ he)
              · rw [List.mem_singleton.1 he]
                exact ih (ht _ hl) hi
      next => cases hu

theorem InRange.insert (h : es.InRange) (hv : v.InRange) (hi : es.insert path key v = some es') :
    es'.InRange := by
  refine h.update (fun origin es es' h hc => ?_) hi
  split at hc
  · cases hc
  · cases hc
    exact h.concat hv

theorem InRange.insertUnder {header : List String} (h : es.InRange) (hv : v.InRange)
    (hi : es.insertUnder header path key v = some es') : es'.InRange :=
  h.update (fun _ _ _ h hc => h.insert hv hc) hi

theorem InRange.openTable (h : es.InRange) (ho : es.openTable path key = some es') :
    es'.InRange := by
  refine h.update (fun origin es es' h hc => ?_) ho
  split at hc
  · cases hc
    exact h.concat (.table _ (List.forall_mem_nil _))
  next hf =>
    cases hc
    cases h.find? hf with
    | table _ ht => exact h.replace (.table _ ht)
  · cases hc

theorem InRange.addTable (h : es.InRange) (ha : es.addTable path key = some es') :
    es'.InRange := by
  refine h.update (fun origin es es' h hc => ?_) ha
  split at hc
  · cases hc
    exact h.concat (.tables (by simp))
  next hf =>
    cases hc
    cases h.find? hf with
    | tables ht => exact h.replace (.tables (by simpa [or_imp, forall_and] using ht))
  · cases hc

end Entries

theorem inRange_bounded? {z : Int} (h : bounded? z = some v) : v.InRange := by
  unfold bounded? at h
  split at h
  next hz =>
    cases h
    exact .integer hz.1 hz.2
  next => cases h

theorem inRange_inBase? {base : Nat} (h : inBase? base cs = some v) : v.InRange := by
  obtain ⟨ds, -, hb⟩ := Option.bind_eq_some_iff.1 h
  exact inRange_bounded? hb

theorem inRange_integer? (h : integer? cs = some v) : v.InRange := by
  unfold integer? at h
  split at h
  · exact inRange_inBase? h
  · exact inRange_inBase? h
  · exact inRange_inBase? h
  · obtain ⟨ds, -, hb⟩ := Option.bind_eq_some_iff.1 h
    exact inRange_bounded? hb

theorem eq_float_of_float? (h : float? cs = some v) : v = .float := by
  simp only [float?] at h
  grind [Option.bind_eq_some_iff]

theorem inRange_scalar? (h : scalar? cs = some v) : v.InRange := by
  unfold scalar? at h
  split at h
  · cases h
    exact .boolean true
  split at h
  · cases h
    exact .boolean false
  split at h
  · cases h
    exact .date
  split at h
  next hf =>
    cases h
    cases eq_float_of_float? hf
    exact .float
  next => exact inRange_integer? h

theorem readsInRange_scalar : ReadsInRange scalar := by
  intro cs v rest h
  unfold scalar at h
  extract_lets token after next at h
  clear_value after next
  split at h
  · split at h
    · cases h
      exact .date
    · cases h
  · obtain ⟨w, hs, he⟩ := Option.map_eq_some_iff.1 h
    cases he
    exact inRange_scalar? hs

theorem inRange_listItems (hi : ReadsInRange item) (h : listItems item cs = some (vs, rest)) :
    ∀ v ∈ vs, v.InRange := by
  fun_induction listItems item cs generalizing vs rest with
  | case1 =>
      cases h
      exact List.forall_mem_nil _
  | case3 _ v _ _ _ _ hv =>
      -- No comma follows, so that the value is the last one.
      cases h
      simpa using hi hv
  | case4 _ v _ _ _ _ _ hv ih =>
      obtain ⟨r, hr, he⟩ := Option.map_eq_some_iff.1 h
      cases he
      exact List.forall_mem_cons.2 ⟨hi hv, ih hr⟩
  | case2 | case5 | case6 => cases h

theorem inRange_keyValue (hi : ReadsInRange item) (h : keyValue item cs = some ((path, v), rest)) :
    v.InRange := by
  unfold keyValue at h
  split at h
  · obtain ⟨r, hr, he⟩ := Option.map_eq_some_iff.1 h
    cases he
    exact hi hr
  · cases h

theorem inRange_addEntry (h : es.InRange) (hv : v.InRange) (ha : addEntry es path v = some es') :
    es'.InRange := by
  unfold addEntry at ha
  split at ha
  · exact h.insert hv ha
  · cases ha

theorem inRange_braceItems (hi : ReadsInRange item) (h : es.InRange)
    (hb : braceItems item es cs = some (es', rest)) : es'.InRange := by
  -- The entries read so far stay in range with each one added.
  fun_induction braceItems item es cs generalizing es' rest with
  | case3 _ _ _ _ _ hk _ ha =>
      cases hb
      exact inRange_addEntry h (inRange_keyValue hi hk) ha
  | case4 _ _ _ _ _ hk _ ha _ _ _ ih =>
      exact ih (inRange_addEntry h (inRange_keyValue hi hk) ha) hb
  | case1 | case2 | case5 | case6 => cases hb

theorem readsInRange_value_of {depth : Nat} (hi : ∀ d, depth = d + 1 → ReadsInRange (value d)) :
    ReadsInRange (value depth) := by
  intro cs v rest h
  rw [value.eq_def] at h
  split at h
  next =>
    split at h
    · cases h
    next =>
      obtain ⟨r, hr, he⟩ := Option.map_eq_some_iff.1 h
      cases he
      exact .list (inRange_listItems (hi _ rfl) hr)
  next =>
    split at h
    · cases h
    next =>
      split at h
      · cases h
        exact .table _ (List.forall_mem_nil _)
      · obtain ⟨r, hr, he⟩ := Option.map_eq_some_iff.1 h
        cases he
        exact .table _ (inRange_braceItems (hi _ rfl) (List.forall_mem_nil _) hr)
  next =>
    obtain ⟨r, -, he⟩ := Option.map_eq_some_iff.1 h
    cases he
    exact .text _
  next =>
    obtain ⟨r, -, he⟩ := Option.map_eq_some_iff.1 h
    cases he
    exact .text _
  next => exact readsInRange_scalar h

theorem readsInRange_value (depth : Nat) : ReadsInRange (value depth) := by
  induction depth with
  | zero => exact readsInRange_value_of nofun
  | succ depth ih =>
      refine readsInRange_value_of ?_
      rintro _ ⟨⟩
      exact ih

def Statement.InRange : Statement → Prop
  | .entry _ v => v.InRange
  | .header _ | .listHeader _ => True

theorem inRange_statement {s : Statement} (h : statement cs = some (s, rest)) : s.InRange := by
  unfold statement at h
  split at h
  · split at h
    · cases h
      trivial
    · cases h
  · split at h
    · cases h
      trivial
    · cases h
  · obtain ⟨r, hr, he⟩ := Option.map_eq_some_iff.1 h
    cases he
    exact inRange_keyValue (readsInRange_value maxDepth) hr

theorem inRange_statements {ss : List Statement} (h : statements cs = some ss) :
    ∀ s ∈ ss, s.InRange := by
  fun_induction statements cs generalizing ss with
  | case1 =>
      cases h
      exact List.forall_mem_nil _
  -- A blank line or a comment says nothing.
  | case3 _ _ _ _ _ _ _ _ ih => exact ih h
  | case7 _ _ _ _ _ s _ hs _ _ _ ih =>
      obtain ⟨ss, hss, rfl⟩ := Option.map_eq_some_iff.1 h
      exact List.forall_mem_cons.2 ⟨inRange_statement hs, ih hss⟩
  | case2 | case4 | case5 | case6 | case8 => cases h

theorem inRange_add {d d' : Draft} {s : Statement} (h : d.entries.InRange) (hs : s.InRange)
    (ha : d.add s = some d') : d'.entries.InRange := by
  cases s with
  | entry path v =>
      rw [Draft.add] at ha
      split at ha
      · cases ha
      · obtain ⟨es, he, rfl⟩ := Option.map_eq_some_iff.1 ha
        exact h.insertUnder hs he
  | header path =>
      rw [Draft.add] at ha
      split at ha
      · cases ha
      · obtain ⟨es, he, rfl⟩ := Option.map_eq_some_iff.1 ha
        exact h.openTable he
  | listHeader path =>
      rw [Draft.add] at ha
      split at ha
      · cases ha
      · obtain ⟨es, he, rfl⟩ := Option.map_eq_some_iff.1 ha
        exact h.addTable he

theorem inRange_addAll {d d' : Draft} {ss : List Statement} (h : d.entries.InRange)
    (hs : ∀ s ∈ ss, s.InRange) (ha : d.addAll ss = some d') : d'.entries.InRange := by
  induction ss generalizing d with
  | nil =>
      cases ha
      exact h
  | cons s ss ih =>
      obtain ⟨hs, hss⟩ := List.forall_mem_cons.1 hs
      obtain ⟨e, he, ha⟩ := Option.bind_eq_some_iff.1 ha
      exact ih (inRange_add h hs he) hss ha

theorem inRange_parse? {file : String} (h : parse? file = some es) : es.InRange := by
  obtain ⟨d, hd, rfl⟩ := Option.map_eq_some_iff.1 h
  obtain ⟨ss, hs, ha⟩ := Option.bind_eq_some_iff.1 hd
  have h0 : Entries.InRange [] := List.forall_mem_nil _
  exact inRange_addAll h0 (inRange_statements hs) ha

end TilePuzzle.Toml
