import AppManifest.Path

/-!
# Theory of paths

A path may be built at once, in parts or one segment at a time: what was built before comes back
only as a text that may have dots in it or be empty, but joining it with more segments gives the
path of all of them (`Path.ofSegments_append`).

The segments of a path cannot be told from its text, but the pieces into which dots divide the text
can: they are those of the segments, one after the other (`Path.pieces_ofSegments`), and they
determine the text. Paths of segments without dots are therefore normal forms of the lists of these
segments (`Path.segments_normalize`).
-/

namespace AppManifest.Path

/-- Joining texts of which none is empty gives the empty text only for none. -/
theorem intercalate_ne_empty {segments : List String} (hsegments : segments ≠ [])
    (h : ∀ segment ∈ segments, segment ≠ "") : String.intercalate "." segments ≠ "" := by
  cases segments with
  | nil => exact absurd rfl hsegments
  | cons head rest =>
      have hhead := h head List.mem_cons_self
      cases rest with
      | nil => rwa [String.intercalate_singleton]
      | cons next rest =>
          rw [String.intercalate_cons_cons, String.append_assoc]
          exact fun hempty => hhead (String.append_eq_empty_iff.1 hempty).1

/-- The segments that leave a trace. -/
def kept (segments : List String) : List String :=
  segments.filter fun segment => !segment.isEmpty

/-- A segment that leaves a trace is not empty. -/
theorem ne_empty_of_mem_kept {segments : List String} {segment : String}
    (h : segment ∈ kept segments) : segment ≠ "" := by
  rintro rfl
  cases (List.mem_filter.1 h).2

/-- An empty segment leaves no trace, and any other one does. -/
theorem kept_singleton (name : String) : kept [name] = if name = "" then [] else [name] := by
  split
  next h => rw [h]; rfl
  next h => simp [kept, h]

/-- Among the segments that leave a trace, all do. -/
theorem kept_kept (segments : List String) : kept (kept segments) = kept segments := by
  simp only [kept, List.filter_filter, Bool.and_self]

/-- The segments that leave a trace among more segments are behind those that do before. -/
theorem kept_append (first second : List String) :
    kept (first ++ second) = kept first ++ kept second :=
  List.filter_append ..

/-- A path is that of its text as the only segment. -/
theorem ofSegments_text (path : Path) : ofSegments [path.text] = path := by
  obtain ⟨text⟩ := path
  show Path.mk (".".intercalate (kept [text])) = Path.mk text
  rw [kept_singleton]
  split
  next h => rw [h, String.intercalate_nil]
  next => rw [String.intercalate_singleton]

/-- The path of more segments is that of what they are joined to before and behind. -/
theorem ofSegments_append (first second : List String) :
    ofSegments (first ++ second) =
      ofSegments [(ofSegments first).text, (ofSegments second).text] := by
  show Path.mk (".".intercalate (kept (first ++ second))) =
    Path.mk (".".intercalate (kept
      ([".".intercalate (kept first)] ++ [".".intercalate (kept second)])))
  rw [kept_append, kept_append, kept_singleton, kept_singleton]
  by_cases hfirst : kept first = []
  · rw [hfirst, String.intercalate_nil, if_pos rfl, List.nil_append, List.nil_append,
      ← kept_singleton]
    exact (ofSegments_text (ofSegments second)).symm
  rw [if_neg (intercalate_ne_empty hfirst fun _ => ne_empty_of_mem_kept)]
  by_cases hsecond : kept second = []
  · rw [hsecond, String.intercalate_nil, if_pos rfl, List.append_nil, List.append_nil,
      String.intercalate_singleton]
  · rw [if_neg (intercalate_ne_empty hsecond fun _ => ne_empty_of_mem_kept),
      List.singleton_append, String.intercalate_cons_cons, String.intercalate_singleton,
      String.intercalate_append_of_ne_nil hfirst hsecond]

/-- The path one segment deeper is that of one more segment. -/
theorem child_ofSegments (segments : List String) (name : String) :
    (ofSegments segments).child name = ofSegments (segments ++ [name]) := by
  rw [ofSegments_append, ofSegments_text ⟨name⟩, child]

/-- The path deeper by some segments is that of these segments behind. -/
theorem foldl_child_ofSegments (segments names : List String) :
    names.foldl child (ofSegments segments) = ofSegments (segments ++ names) := by
  induction names generalizing segments with
  | nil => rw [List.foldl_nil, List.append_nil]
  | cons name rest ih =>
      rw [List.foldl_cons, child_ofSegments, ih, List.append_assoc, List.singleton_append]

/-! ## Pieces -/

/-- The pieces into which dots divide a text. -/
def pieces (text : String) : List String :=
  (text.toList.splitOn '.').map String.ofList

/-- A text without dots is its only piece. -/
theorem pieces_eq_singleton {text : String} (h : '.' ∉ text.toList) : pieces text = [text] := by
  rw [pieces, List.splitOn_eq_singleton h, List.map_singleton, String.ofList_toList]

/-- A dot divides a text into the pieces before it and those behind it. -/
theorem pieces_append (first second : String) :
    pieces (first ++ "." ++ second) = pieces first ++ pieces second := by
  have hsplit : (first ++ "." ++ second).toList = first.toList ++ '.' :: second.toList := by
    rw [String.toList_append, String.toList_append, List.append_assoc]
    rfl
  rw [pieces, hsplit, List.splitOn_append_cons_self, List.map_append, pieces, pieces]

/-- Joined by dots, texts have the pieces of one after the other. -/
theorem pieces_intercalate {segments : List String} (h : segments ≠ []) :
    pieces (".".intercalate segments) = segments.flatMap pieces := by
  induction segments with
  | nil => exact absurd rfl h
  | cons head rest ih =>
      cases rest with
      | nil => rw [String.intercalate_singleton, List.flatMap_singleton]
      | cons next rest =>
          rw [String.intercalate_cons_cons, pieces_append, ih (List.cons_ne_nil _ _)]
          rfl

/-- Joined by dots, the pieces of a text give the text. -/
theorem intercalate_pieces (text : String) : ".".intercalate (pieces text) = text := by
  have hchars : (pieces text).map String.toList = text.toList.splitOn '.' := by
    rw [pieces, List.map_map]
    exact (List.map_congr_left fun _ _ => String.toList_ofList).trans (List.map_id _)
  rw [← String.toList_inj, String.toList_intercalate, hchars]
  exact List.intercalate_splitOn '.'

/-- Texts with the same pieces are the same. -/
theorem pieces_inj {first second : String} : pieces first = pieces second ↔ first = second := by
  refine ⟨fun h => ?_, congrArg pieces⟩
  rw [← intercalate_pieces first, h, intercalate_pieces second]

/-- A path has the pieces of its segments, one after the other, empty segments left out. -/
theorem pieces_ofSegments {segments : List String} (h : kept segments ≠ []) :
    pieces (ofSegments segments).text = (kept segments).flatMap pieces :=
  pieces_intercalate h

/-- Names without dots are their own pieces. -/
theorem flatMap_pieces {names : List String} (h : ∀ name ∈ names, '.' ∉ name.toList) :
    names.flatMap pieces = names := by
  induction names with
  | nil => rfl
  | cons head rest ih =>
      rw [List.flatMap_cons, pieces_eq_singleton (h head List.mem_cons_self),
        ih fun name hname => h name (List.mem_cons_of_mem _ hname), List.singleton_append]

/-- Segments without dots that leave a trace are the pieces of their path that are not empty. -/
theorem kept_pieces_ofSegments {segments : List String}
    (h : ∀ segment ∈ segments, '.' ∉ segment.toList) :
    kept (pieces (ofSegments segments).text) = kept segments := by
  by_cases hkept : kept segments = []
  · -- the path is empty, and so is its only piece
    have htext : (ofSegments segments).text = "" := congrArg (".".intercalate ·) hkept
    rw [htext, hkept]
    rfl
  · have hdots : ∀ segment ∈ kept segments, '.' ∉ segment.toList := fun segment hsegment =>
      h segment (List.mem_filter.1 hsegment).1
    rw [pieces_ofSegments hkept, flatMap_pieces hdots]
    exact kept_kept segments

/-- Paths of segments without dots are equal exactly if the same segments leave a trace in them. -/
theorem ofSegments_eq_iff {first second : List String}
    (hfirst : ∀ segment ∈ first, '.' ∉ segment.toList)
    (hsecond : ∀ segment ∈ second, '.' ∉ segment.toList) :
    ofSegments first = ofSegments second ↔ kept first = kept second := by
  constructor
  · intro h
    rw [← kept_pieces_ofSegments hfirst, h, kept_pieces_ofSegments hsecond]
  · intro h
    exact congrArg (fun segments => Path.mk (".".intercalate segments)) h

/-! ## Optional segments -/

/-- The segments that leave a trace, of those that are there. -/
def present (segments : List (Option String)) : List String :=
  kept (segments.filterMap id)

/-- The segment is not there or is empty. -/
def IsBlank (segment : Option String) : Prop :=
  segment = none ∨ segment = some ""

/-- A blank segment leaves no trace among others. -/
theorem present_insert {segment : Option String} (h : IsBlank segment)
    (front back : List (Option String)) :
    present (front ++ segment :: back) = present (front ++ back) := by
  rw [present, present, List.filterMap_append, List.filterMap_append, kept_append, kept_append]
  obtain rfl | rfl := h
  · rfl
  · rfl

/-- Paths are normal forms of lists of segments. A blank segment can be put anywhere or taken away,
and lists of which the same segments leave a trace have the same path. Joining can be done in parts
and segment by segment. If no segment has a dot, the path is rebuilt from what its dots divide it
into, and it tells which segments leave a trace. -/
theorem segments_normalize :
    (∀ (front back : List (Option String)) (segment : Option String), IsBlank segment →
      ofOptionalSegments (front ++ segment :: back) = ofOptionalSegments (front ++ back)) ∧
    (∀ first second : List (Option String), present first = present second →
      ofOptionalSegments first = ofOptionalSegments second) ∧
    (∀ first second : List (Option String), ofOptionalSegments (first ++ second) =
      ofOptionalSegments [some (ofOptionalSegments first).text,
        some (ofOptionalSegments second).text]) ∧
    (∀ (segments : List (Option String)) (names : List String),
      names.foldl child (ofOptionalSegments segments) =
        ofOptionalSegments (segments ++ names.map some)) ∧
    ∀ segments : List (Option String),
      (∀ segment ∈ segments.filterMap id, '.' ∉ segment.toList) →
        ofSegments (pieces (ofOptionalSegments segments).text) = ofOptionalSegments segments ∧
        ∀ others : List (Option String),
          (∀ segment ∈ others.filterMap id, '.' ∉ segment.toList) →
            (ofOptionalSegments segments = ofOptionalSegments others ↔
              present segments = present others) := by
  have hpresent : ∀ first second : List (Option String), present first = present second →
      ofOptionalSegments first = ofOptionalSegments second := fun _ _ =>
    congrArg fun segments => Path.mk (".".intercalate segments)
  refine ⟨fun front back segment h => hpresent _ _ (present_insert h front back), hpresent,
    fun first second => ?_, fun segments names => ?_,
    fun segments h => ⟨?_, fun others hothers => ?_⟩⟩
  · rw [ofOptionalSegments, List.filterMap_append, ofSegments_append]
    rfl
  · rw [ofOptionalSegments, foldl_child_ofSegments, ofOptionalSegments, List.filterMap_append,
      List.filterMap_map]
    congr 2
    exact (List.filterMap_some ..).symm
  · exact congrArg (fun segments => Path.mk (".".intercalate segments))
      (kept_pieces_ofSegments h)
  · exact ofSegments_eq_iff h hothers

/-- The segments of an incident, among blank ones, are told from its path. -/
theorem incident_normalizes :
    let segments := [none, some "incident", some "", some "id", none]
    ofOptionalSegments segments = ⟨"incident.id"⟩ ∧
      ofSegments (pieces (ofOptionalSegments segments).text) = ofOptionalSegments segments ∧
      ofOptionalSegments segments ≠ ofOptionalSegments [some "incident", some "ids"] := by
  obtain ⟨hpieces, hiff⟩ := segments_normalize.2.2.2.2
    [none, some "incident", some "", some "id", none] (by decide)
  refine ⟨by decide +kernel, hpieces, ?_⟩
  rw [ne_eq, hiff [some "incident", some "ids"] (by decide)]
  decide +kernel

/-- Paths are rendered alike exactly if they have the same text. -/
theorem render_eq_iff {first second : Path} :
    first.render = second.render ↔ first.text = second.text := by
  rw [render, render, String.append_left_inj, String.append_right_inj]

end AppManifest.Path
