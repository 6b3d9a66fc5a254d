import Mathlib.Data.List.TakeWhile
import RouteDoc.Route.Path
/-!
# RouteDoc.Proofs.Route.Path

**A path and its template have the same markers.** `Reads` says how a text is taken apart, without
counting characters: at each place a marker is taken when one stands there, otherwise a single
character. `Path.pieces` is the only reading of a path (`reads_pieces`, `Reads.eq_piecesFrom`).

* A marker that occurs anywhere in a text is one of its pieces (`marker_mem_iff`).
* Written without question marks, the pieces are read back as they are, but for the question marks
  (`Reads.required`): nothing that is written so makes a new marker. So a template has the markers of
  the path, none of them optional (`pieces_template`), and is its own template (`template_template`).
-/

namespace RouteDoc.Path

open RouteDoc.Text

/-! ### Markers -/

/-- The name of a marker: letters, digits and underscores. -/
def IsName (name : List Char) : Prop := name ≠ [] ∧ ∀ c ∈ name, isWord c = true

/-- What stands behind the name of a marker. -/
def closing (isOptional : Bool) : List Char := if isOptional then ['?', '}'] else ['}']

theorem render_marker (name : List Char) (isOptional : Bool) :
    (Piece.marker name isOptional).render = '{' :: (name ++ closing isOptional) := rfl

theorem brace_not_mem {name : List Char} (h : IsName name) (isOptional : Bool) :
    '{' ∉ name ++ closing isOptional := by
  have hbrace : isWord '{' = false := by decide
  intro hmem
  rcases List.mem_append.1 hmem with hmem | hmem
  · simp [h.2 _ hmem] at hbrace
  · cases isOptional <;> simp [closing] at hmem

theorem takeWhile_append_closing {name : List Char} (h : IsName name) (isOptional : Bool)
    (rest : List Char) :
    (name ++ (closing isOptional ++ rest)).takeWhile isWord = name ∧
      (name ++ (closing isOptional ++ rest)).dropWhile isWord = closing isOptional ++ rest := by
  have hquestion : isWord '?' = false := by decide
  have hbrace : isWord '}' = false := by decide
  rw [List.takeWhile_append_of_pos h.2, List.dropWhile_append_of_pos h.2]
  cases isOptional <;> simp [closing, hquestion, hbrace]

/-- A marker that is written is found. -/
theorem marker?_render {name : List Char} (h : IsName name) (isOptional : Bool)
    (rest : List Char) :
    marker? ((Piece.marker name isOptional).render ++ rest) =
      some (name, isOptional, (Piece.marker name isOptional).render.length) := by
  obtain ⟨htake, hdrop⟩ := takeWhile_append_closing h isOptional rest
  have hne : name.isEmpty = false := by simpa using h.1
  rw [render_marker, List.cons_append, List.append_assoc, marker?]
  simp only [htake, hdrop, hne]
  cases isOptional <;> simp [closing]

/-- What is found is a marker that is written. -/
theorem isName_of_marker? {cs name : List Char} {isOptional : Bool} {length : Nat}
    (h : marker? cs = some (name, isOptional, length)) :
    IsName name ∧ length = (Piece.marker name isOptional).render.length := by
  unfold marker? at h
  split at h
  case h_2 => simp at h
  case h_1 rest =>
    have hword : ∀ c ∈ rest.takeWhile isWord, isWord c = true := fun c hc =>
      List.mem_takeWhile_imp hc
    generalize rest.takeWhile isWord = w at h hword
    simp only at h
    split at h
    case isTrue => simp at h
    case isFalse hne =>
      split at h <;> simp only [Option.some.injEq, Prod.mk.injEq, reduceCtorEq] at h
      all_goals
        obtain ⟨rfl, rfl, rfl⟩ := h
        exact ⟨⟨by simpa using hne, hword⟩, by simp [Piece.render]⟩

/-! ### Readings -/

/-- How a text is taken apart. -/
inductive Reads : List Char → List Piece → Prop
  | nil : Reads [] []
  | plain {c : Char} {rest : List Char} {ps : List Piece} (hc : marker? (c :: rest) = none)
      (h : Reads rest ps) : Reads (c :: rest) (.plain c :: ps)
  | marker {name rest : List Char} {isOptional : Bool} {ps : List Piece} (hname : IsName name)
      (h : Reads rest ps) :
      Reads ((Piece.marker name isOptional).render ++ rest) (.marker name isOptional :: ps)

theorem piecesFrom_eq_drop (n : Nat) (cs : List Char) :
    piecesFrom n cs = piecesFrom 0 (cs.drop n) := by
  induction cs generalizing n with
  | nil => cases n <;> rfl
  | cons c rest ih =>
      cases n with
      | zero => rfl
      | succ n => exact ih n

theorem piecesFrom_marker {name : List Char} (h : IsName name) (isOptional : Bool)
    (rest : List Char) :
    piecesFrom 0 ((Piece.marker name isOptional).render ++ rest) =
      .marker name isOptional :: piecesFrom 0 rest := by
  have hfound := marker?_render h isOptional rest
  rw [render_marker, List.cons_append] at hfound ⊢
  rw [piecesFrom, hfound]
  dsimp only
  rw [piecesFrom_eq_drop]
  simp

theorem piecesFrom_plain {c : Char} {rest : List Char} (h : marker? (c :: rest) = none) :
    piecesFrom 0 (c :: rest) = .plain c :: piecesFrom 0 rest := by
  rw [piecesFrom, h]

/-- A text has one reading. -/
theorem Reads.eq_piecesFrom {cs : List Char} {ps : List Piece} (h : Reads cs ps) :
    piecesFrom 0 cs = ps := by
  induction h with
  | nil => rfl
  | plain hc _ ih => rw [piecesFrom_plain hc, ih]
  | marker hname _ ih => rw [piecesFrom_marker hname, ih]

/-- The pieces are a reading, by induction on the length of the text. -/
theorem reads_piecesFrom (cs : List Char) : Reads cs (piecesFrom 0 cs) := by
  induction hn : cs.length using Nat.strongRecOn generalizing cs with
  | ind n ih =>
  cases cs with
  | nil => exact .nil
  | cons c rest =>
      cases hfound : marker? (c :: rest) with
      | none =>
          rw [piecesFrom_plain hfound]
          exact .plain hfound (ih rest.length (by simp [← hn]) rest rfl)
      | some found =>
          obtain ⟨name, isOptional, length⟩ := found
          obtain ⟨hpos, heq⟩ := eq_render_append_of_marker? hfound
          obtain ⟨hname, hlength⟩ := isName_of_marker? hfound
          rw [heq, piecesFrom_marker hname]
          refine .marker hname (ih _ ?_ _ rfl)
          rw [← hn, List.length_drop, List.length_cons]
          omega

theorem reads_pieces (path : String) : Reads path.toList (pieces path) := reads_piecesFrom _

theorem Reads.render {cs : List Char} {ps : List Piece} (h : Reads cs ps) :
    ps.flatMap Piece.render = cs := by
  induction h with
  | nil => rfl
  | plain _ _ ih => rw [List.flatMap_cons, ih]; rfl
  | marker _ _ ih => rw [List.flatMap_cons, ih]

/-! ### Markers that occur -/

/-- What starts with a brace and occurs behind characters that are none does not reach into them. -/
theorem infix_of_infix_append {w before rest : List Char} (h : '{' ∉ before)
    (hw : '{' :: w <:+: before ++ rest) : '{' :: w <:+: rest := by
  induction before with
  | nil => exact hw
  | cons c before ih =>
      rw [List.mem_cons, not_or] at h
      rw [List.cons_append, List.infix_cons_iff] at hw
      rcases hw with hstart | hoccurs
      · exact absurd (List.cons_prefix_cons.1 hstart).1 h.1
      · exact ih h.2 hoccurs

/-- Of two markers that stand at the same place the one is the other. -/
theorem marker_eq_of_starts {name other rest : List Char} {isOptional isOptional' : Bool}
    (h : IsName name) (hother : IsName other)
    (hstart : (Piece.marker name isOptional).render <+:
      (Piece.marker other isOptional').render ++ rest) :
    Piece.marker name isOptional = .marker other isOptional' := by
  obtain ⟨behind, hbehind⟩ := hstart
  have hfound := marker?_render h isOptional behind
  rw [hbehind, marker?_render hother] at hfound
  simp only [Option.some.injEq, Prod.mk.injEq] at hfound
  rw [hfound.1, hfound.2.1]

theorem Reads.marker_mem {cs : List Char} {ps : List Piece} (h : Reads cs ps) {name : List Char}
    (hname : IsName name) {isOptional : Bool}
    (hoccurs : (Piece.marker name isOptional).render <:+: cs) :
    .marker name isOptional ∈ ps := by
  induction h with
  | nil => simp [render_marker] at hoccurs
  | plain hc _ ih =>
      rcases List.infix_cons_iff.1 hoccurs with ⟨behind, hbehind⟩ | hoccurs
      · rw [← hbehind, marker?_render hname] at hc
        simp at hc
      · exact List.mem_cons_of_mem _ (ih hoccurs)
  | @marker other rest isOptional' ps hother _ ih =>
      rw [render_marker other, List.cons_append, List.infix_cons_iff] at hoccurs
      rcases hoccurs with hstart | hoccurs
      · exact List.mem_cons.2 (.inl (marker_eq_of_starts hname hother hstart))
      · rw [render_marker] at hoccurs
        have hbehind := infix_of_infix_append (brace_not_mem hother isOptional') hoccurs
        exact List.mem_cons_of_mem _ (ih hbehind)

theorem Reads.isName {cs : List Char} {ps : List Piece} (h : Reads cs ps) {name : List Char}
    {isOptional : Bool} (hmem : .marker name isOptional ∈ ps) : IsName name := by
  induction h with
  | nil => simp at hmem
  | plain _ _ ih =>
      rcases List.mem_cons.1 hmem with heq | hmem
      · simp at heq
      · exact ih hmem
  | marker hname _ ih =>
      rcases List.mem_cons.1 hmem with heq | hmem
      · obtain ⟨rfl, rfl⟩ := Piece.marker.inj heq
        exact hname
      · exact ih hmem

/-- The markers among the pieces of a path are those that occur in it. -/
theorem marker_mem_iff {path : String} {name : List Char} {isOptional : Bool} :
    .marker name isOptional ∈ pieces path ↔
      IsName name ∧ (Piece.marker name isOptional).render <:+: path.toList := by
  have hreads := reads_pieces path
  constructor
  · intro hmem
    refine ⟨hreads.isName hmem, ?_⟩
    obtain ⟨before, after, hsplit⟩ := List.append_of_mem hmem
    rw [← hreads.render, hsplit, List.flatMap_append, List.flatMap_cons, ← List.append_assoc]
    exact ⟨_, _, rfl⟩
  · rintro ⟨hname, hoccurs⟩
    exact hreads.marker_mem hname hoccurs

/-! ### Paths without question marks -/

/-- The piece as it stands in a template. -/
def Piece.required : Piece → Piece
  | .plain c => .plain c
  | .marker name _ => .marker name false

theorem renderRequired_required (p : Piece) : p.required.renderRequired = p.renderRequired := by
  cases p <;> rfl

/-- Question marks matter behind a brace only: both ways to write pieces start with the same
characters, as far as these are no braces. -/
theorem prefix_flatMap_iff {w : List Char} (h : '{' ∉ w) (ps : List Piece) :
    w <+: ps.flatMap Piece.renderRequired ↔ w <+: ps.flatMap Piece.render := by
  induction ps generalizing w with
  | nil => rfl
  | cons p ps ih =>
      cases w with
      | nil => simp
      | cons d w =>
          rw [List.mem_cons, not_or] at h
          cases p with
          | plain c =>
              have hrest := ih h.2
              simp only [List.flatMap_cons, Piece.render, Piece.renderRequired,
                List.singleton_append, List.cons_prefix_cons, hrest]
          | marker name isOptional =>
              simp only [List.flatMap_cons, Piece.render, Piece.renderRequired, List.cons_append,
                List.cons_prefix_cons, Ne.symm h.1, false_and]

/-- Written without question marks, a text is read as before, but for the question marks. -/
theorem Reads.required {cs : List Char} {ps : List Piece} (h : Reads cs ps) :
    Reads (ps.flatMap Piece.renderRequired) (ps.map Piece.required) := by
  induction h with
  | nil => exact .nil
  | @marker name _ _ _ hname _ ih =>
      rw [List.flatMap_cons]
      exact @Reads.marker name _ false _ hname ih
  | @plain c rest ps hc hrest ih =>
      rw [← hrest.render] at hc
      rw [List.flatMap_cons]
      refine .plain ?_ ih
      cases hfound : marker? (c :: ps.flatMap Piece.renderRequired) with
      | none => exact hfound
      | some found =>
          -- a marker that starts here would have been read here before
          obtain ⟨name, isOptional, length⟩ := found
          obtain ⟨hname, -⟩ := isName_of_marker? hfound
          obtain ⟨-, heq⟩ := eq_render_append_of_marker? hfound
          rw [render_marker, List.cons_append] at heq
          obtain ⟨rfl, heq⟩ := List.cons.inj heq
          have hstart : name ++ closing isOptional <+: ps.flatMap Piece.renderRequired :=
            ⟨_, heq.symm⟩
          obtain ⟨behind, hbehind⟩ :=
            (prefix_flatMap_iff (brace_not_mem hname isOptional) ps).1 hstart
          have hbefore := marker?_render hname isOptional behind
          rw [render_marker, List.cons_append, hbehind, hc] at hbefore
          simp at hbefore

/-- Rewrite the optional markers from the left on, whatever else stands in the text; as many
characters as are said are passed over first. -/
def rewriteFrom : Nat → List Char → List Char
  | _, [] => []
  | skip + 1, _ :: rest => rewriteFrom skip rest
  | 0, c :: rest => match marker? (c :: rest) with
      | some (name, true, length) => '{' :: name ++ '}' :: rewriteFrom (length - 1) rest
      | _ => c :: rewriteFrom 0 rest

theorem rewriteFrom_eq_drop (n : Nat) (cs : List Char) :
    rewriteFrom n cs = rewriteFrom 0 (cs.drop n) := by
  induction cs generalizing n with
  | nil => cases n <;> rfl
  | cons c rest ih =>
      cases n with
      | zero => rfl
      | succ n => exact ih n

theorem rewriteFrom_append {before : List Char} (h : '{' ∉ before) (rest : List Char) :
    rewriteFrom 0 (before ++ rest) = before ++ rewriteFrom 0 rest := by
  induction before with
  | nil => rfl
  | cons c before ih =>
      rw [List.mem_cons, not_or] at h
      have hnone : marker? (c :: (before ++ rest)) = none := by
        unfold marker?
        split <;> simp_all
      rw [List.cons_append, rewriteFrom, hnone, ih h.2, List.cons_append]

/-- Looking for the optional markers alone rewrites the text as taking it apart does. -/
theorem Reads.rewriteFrom_eq {cs : List Char} {ps : List Piece} (h : Reads cs ps) :
    rewriteFrom 0 cs = ps.flatMap Piece.renderRequired := by
  induction h with
  | nil => rfl
  | plain hc _ ih =>
      rw [rewriteFrom, hc, ih]
      rfl
  | @marker name rest isOptional ps hname _ ih =>
      have hfound := marker?_render hname isOptional rest
      rw [render_marker, List.cons_append] at hfound ⊢
      rw [rewriteFrom, hfound, List.flatMap_cons, ← ih]
      cases isOptional with
      | true =>
          dsimp only
          rw [rewriteFrom_eq_drop]
          simp [Piece.renderRequired]
      | false =>
          dsimp only
          rw [rewriteFrom_append (brace_not_mem hname false)]
          rfl

/-! ### Normal paths -/

/-- The text has one slash in front and no white space at its end. -/
def IsNormal (cs : List Char) : Prop :=
  ∃ rest, cs = '/' :: rest ∧ rest.head? ≠ some '/' ∧
    ∀ c, rest.getLast? = some c → isBlank c = false

theorem toList_normalize (uri : String) :
    (normalize uri).toList = '/' :: (trimChars isBlank uri.toList).dropWhile (· = '/') := by
  simp [normalize, trimLeftBy, trim, trimBy, trimFront]

theorem getLast?_trimBack {p : Char → Bool} {cs : List Char} {c : Char}
    (h : (trimBack p cs).getLast? = some c) : p c = false := by
  rw [trimBack, List.getLast?_reverse] at h
  have hhead := List.head?_dropWhile_not p cs.reverse
  rw [h] at hhead
  simpa using hhead

theorem getLast?_dropWhile {p : Char → Bool} {cs : List Char} {c : Char}
    (h : (cs.dropWhile p).getLast? = some c) : cs.getLast? = some c := by
  rw [← List.takeWhile_append_dropWhile (p := p) (l := cs), List.getLast?_append, h]
  rfl

theorem isNormal_normalize (uri : String) : IsNormal (normalize uri).toList := by
  refine ⟨_, toList_normalize uri, ?_, ?_⟩
  · intro hhead
    have hnot := List.head?_dropWhile_not (· = '/') (trimChars isBlank uri.toList)
    rw [hhead] at hnot
    simp at hnot
  · intro c hlast
    exact getLast?_trimBack (getLast?_dropWhile hlast)

theorem normalize_of_isNormal {s : String} (h : IsNormal s.toList) : normalize s = s := by
  obtain ⟨rest, hs, hhead, hlast⟩ := h
  have htrim : trimChars isBlank s.toList = s.toList := by
    rw [hs]
    refine trimChars_eq_self (fun c hc => ?_) fun c hc => ?_
    · obtain rfl := Option.some.inj hc
      decide
    · rw [List.getLast?_cons] at hc
      cases hrest : rest.getLast? with
      | none =>
          rw [hrest] at hc
          obtain rfl := Option.some.inj hc
          decide
      | some d =>
          rw [hrest] at hc
          obtain rfl := Option.some.inj hc
          exact hlast d hrest
  have hdrop : rest.dropWhile (· = '/') = rest := by
    cases rest with
    | nil => rfl
    | cons d rest => exact List.dropWhile_cons_of_neg (by simpa using hhead)
  rw [String.ext_iff, toList_normalize, htrim, hs, List.dropWhile_cons_of_pos (by decide), hdrop]

theorem normalize_normalize (uri : String) : normalize (normalize uri) = normalize uri :=
  normalize_of_isNormal (isNormal_normalize uri)

/-! ### Templates -/

theorem head?_flatMap_renderRequired (ps : List Piece) :
    (ps.flatMap Piece.renderRequired).head? = (ps.flatMap Piece.render).head? := by
  cases ps with
  | nil => rfl
  | cons p ps => cases p <;> rfl

theorem getLast?_flatMap_renderRequired (ps : List Piece) :
    (ps.flatMap Piece.renderRequired).getLast? = (ps.flatMap Piece.render).getLast? := by
  induction ps with
  | nil => rfl
  | cons p ps ih =>
      have hlast : p.renderRequired.getLast? = p.render.getLast? := by
        cases p with
        | plain c => rfl
        | marker name isOptional =>
            cases isOptional <;> simp [Piece.render, Piece.renderRequired, List.getLast?_cons]
      rw [List.flatMap_cons, List.flatMap_cons, List.getLast?_append, List.getLast?_append, ih, hlast]

theorem toList_template (path : String) :
    (template path).toList = (pieces (normalize path)).flatMap Piece.renderRequired := by
  rw [template, String.toList_ofList]

theorem isNormal_template (path : String) : IsNormal (template path).toList := by
  obtain ⟨rest, hnormal, hhead, hlast⟩ := isNormal_normalize path
  have hslash : piecesFrom 0 ('/' :: rest) = .plain '/' :: piecesFrom 0 rest :=
    piecesFrom_plain rfl
  have hrest : (piecesFrom 0 rest).flatMap Piece.render = rest := (reads_piecesFrom rest).render
  refine ⟨(piecesFrom 0 rest).flatMap Piece.renderRequired, ?_, ?_, ?_⟩
  · rw [toList_template, pieces, hnormal, hslash]
    rfl
  · rw [head?_flatMap_renderRequired, hrest]
    exact hhead
  · rw [getLast?_flatMap_renderRequired, hrest]
    exact hlast

/-- A template has the pieces of the path, without question marks. -/
theorem pieces_template (path : String) :
    pieces (template path) = (pieces (normalize path)).map Piece.required := by
  rw [pieces, toList_template]
  exact (reads_pieces (normalize path)).required.eq_piecesFrom

theorem template_normalize (path : String) : template (normalize path) = template path := by
  rw [template, normalize_normalize, ← template]

/-- A template is its own template. -/
theorem template_template (path : String) : template (template path) = template path := by
  have hpieces : (pieces (normalize (template path))).flatMap Piece.renderRequired =
      (pieces (normalize path)).flatMap Piece.renderRequired := by
    rw [normalize_of_isNormal (isNormal_template path), pieces_template, List.flatMap_map]
    simp only [renderRequired_required]
  rw [template, hpieces, ← template]

/-- A template can be made from the normal path by rewriting its optional markers. -/
theorem template_eq_rewriteFrom (path : String) :
    template path = String.ofList (rewriteFrom 0 (normalize path).toList) := by
  rw [template, (reads_pieces (normalize path)).rewriteFrom_eq]

/-- No marker with a question mark occurs in a template. -/
theorem not_infix_template {name : List Char} (h : IsName name) (path : String) :
    ¬(Piece.marker name true).render <:+: (template path).toList := by
  intro hoccurs
  have hmem := marker_mem_iff.2 ⟨h, hoccurs⟩
  rw [pieces_template] at hmem
  obtain ⟨p, -, hp⟩ := List.mem_map.1 hmem
  cases p <;> simp [Piece.required] at hp

/-- The markers of a template are those of the path, in order. -/
theorem markers_template (path : String) :
    markers (template path) = (markers (normalize path)).map fun m => (m.1, false) := by
  unfold markers
  rw [pieces_template, List.filterMap_map, List.map_filterMap]
  congr 1
  funext p
  cases p <;> rfl

theorem mem_markers_iff {path : String} {name : List Char} {isOptional : Bool} :
    (String.ofList name, isOptional) ∈ markers path ↔ .marker name isOptional ∈ pieces path := by
  rw [markers, List.mem_filterMap]
  constructor
  · rintro ⟨p, hp, hmarker⟩
    cases p with
    | plain c => simp at hmarker
    | marker other isOptional' =>
        obtain ⟨hname, rfl⟩ := Prod.mk.inj (Option.some.inj hmarker)
        obtain rfl := String.ofList_injective hname
        exact hp
  · exact fun hp => ⟨_, hp, rfl⟩

/-- A marker occurs in a template exactly when its name is among those of the markers. -/
theorem infix_template_iff {name : List Char} (h : IsName name) (path : String) :
    (Piece.marker name false).render <:+: (template path).toList ↔
      String.ofList name ∈ (markers (template path)).map Prod.fst := by
  have hmem : (Piece.marker name false).render <:+: (template path).toList ↔
      (String.ofList name, false) ∈ markers (template path) := by
    rw [mem_markers_iff, marker_mem_iff]
    exact (and_iff_right h).symm
  rw [hmem, markers_template, List.map_map]
  simp

end RouteDoc.Path
