import RouteAtlas.Survey

set_option autoImplicit false

namespace RouteAtlas

namespace Endpoint

def route (endpoint : Endpoint) : Text × Text :=
  (endpoint.path, endpoint.method)

def Earlier (first second : Endpoint) : Prop :=
  Text.Before first.path second.path ∨ (first.path = second.path ∧ Text.Before first.method second.method)

def ofRoute (route : Text × Text) (endpoints : List Endpoint) : List Endpoint :=
  endpoints.filter fun endpoint => endpoint.route = route

theorem mem_ofRoute {route : Text × Text} {endpoints : List Endpoint} {endpoint : Endpoint} :
    endpoint ∈ ofRoute route endpoints ↔ endpoint ∈ endpoints ∧ endpoint.route = route := by
  simp [ofRoute]

theorem le_iff_earlier (first second : Endpoint) :
    le first second = true ↔ Earlier first second ∨ first.route = second.route := by
  rw [le, Earlier, route, route, Prod.mk.injEq]
  split
  next same => simp [Text.le_iff, same, Text.not_before_self, or_comm]
  next apart => simp [Text.le_iff, apart]

theorem le_total (first second : Endpoint) : (le first second || le second first) = true := by
  by_cases same : first.path = second.path
  · simpa [le, same] using Text.le_total first.method second.method
  · simpa [le, same, Ne.symm same] using Text.le_total first.path second.path

theorem Earlier.not_earlier {first second : Endpoint} (earlier : Earlier first second) : ¬ Earlier second first := by
  rcases earlier with path | ⟨same, method⟩
  · rintro (back | ⟨same, -⟩)
    · exact path.asymm back
    · exact Text.not_before_self _ (same ▸ path)
  · rintro (back | ⟨-, back⟩)
    · exact Text.not_before_self _ (same ▸ back)
    · exact method.asymm back

theorem route_eq {first second : Endpoint} (before : le first second = true) (after : le second first = true) :
    first.route = second.route := by
  rcases (le_iff_earlier first second).mp before with earlier | same
  · rcases (le_iff_earlier second first).mp after with later | same
    · exact absurd later earlier.not_earlier
    · exact same.symm
  · exact same

theorem le_trans (first second third : Endpoint) (before : le first second = true)
    (after : le second third = true) : le first third = true := by
  by_cases same : first.path = second.path <;> by_cases equal : second.path = third.path
  · simp only [le, same, equal, if_true] at before after ⊢
    exact Text.le_trans _ _ _ before after
  · simpa [le, same, equal] using after
  · simpa [le, same, ← equal] using before
  · simp only [le, same, equal, if_false] at before after
    have paths := Text.le_trans _ _ _ before after
    have apart : first.path ≠ third.path := by
      intro meet
      rw [← meet] at after
      rcases (Text.le_iff _ _).mp before with equals | path
      · exact same equals
      · rcases (Text.le_iff _ _).mp after with equals | back
        · exact same equals.symm
        · exact path.asymm back
    simpa [le, apart] using paths

theorem pairwise_sorted (endpoints : List Endpoint) :
    (sorted endpoints).Pairwise fun first second => le first second = true :=
  List.pairwise_mergeSort le_trans le_total endpoints

theorem pairwise_ofRoute (route : Text × Text) (endpoints : List Endpoint) :
    (ofRoute route endpoints).Pairwise fun first second => le first second = true := by
  rw [List.pairwise_iff_forall_sublist]
  intro first second inside
  have firstRoute := (mem_ofRoute.mp (inside.subset List.mem_cons_self)).2
  have secondRoute := (mem_ofRoute.mp (inside.subset (List.mem_cons_of_mem _ List.mem_cons_self))).2
  exact (le_iff_earlier first second).mpr (.inr (firstRoute.trans secondRoute.symm))

theorem ofRoute_sorted (route : Text × Text) (endpoints : List Endpoint) :
    ofRoute route (sorted endpoints) = ofRoute route endpoints := by
  have permuted : (sorted endpoints).Perm endpoints := List.mergeSort_perm endpoints le
  have kept : (ofRoute route endpoints).Sublist (sorted endpoints) :=
    List.sublist_mergeSort le_trans le_total (pairwise_ofRoute route endpoints) List.filter_sublist
  have inside : (ofRoute route endpoints).Sublist (ofRoute route (sorted endpoints)) := by
    have filtered := kept.filter fun endpoint => endpoint.route = route
    simpa only [ofRoute, List.filter_filter, Bool.and_self] using filtered
  exact (inside.eq_of_length (permuted.filter _).length_eq.symm).symm

theorem mem_of_ofRoute {endpoints others : List Endpoint}
    (alike : ∀ route, ofRoute route endpoints = ofRoute route others) {endpoint : Endpoint}
    (member : endpoint ∈ endpoints) : endpoint ∈ others := by
  have here : endpoint ∈ ofRoute endpoint.route endpoints := mem_ofRoute.mpr ⟨member, rfl⟩
  rw [alike] at here
  exact (mem_ofRoute.mp here).1

theorem le_of_mem {first endpoint : Endpoint} {rest : List Endpoint}
    (ordered : (first :: rest).Pairwise fun first second => le first second = true)
    (member : endpoint ∈ first :: rest) : le first endpoint = true := by
  rcases List.mem_cons.mp member with rfl | later
  · exact (le_iff_earlier _ _).mpr (.inr rfl)
  · exact List.rel_of_pairwise_cons ordered later

theorem eq_of_ofRoute {endpoints others : List Endpoint}
    (ordered : endpoints.Pairwise fun first second => le first second = true)
    (othersOrdered : others.Pairwise fun first second => le first second = true)
    (alike : ∀ route, ofRoute route endpoints = ofRoute route others) : endpoints = others := by
  induction endpoints generalizing others with
  | nil =>
    rw [eq_comm, List.eq_nil_iff_forall_not_mem]
    intro endpoint member
    exact List.not_mem_nil (mem_of_ofRoute (fun route => (alike route).symm) member)
  | cons first rest ih =>
    have there : first ∈ others := mem_of_ofRoute alike List.mem_cons_self
    cases others with
    | nil => exact absurd there List.not_mem_nil
    | cons second more =>
      have back : second ∈ first :: rest := mem_of_ofRoute (fun route => (alike route).symm) List.mem_cons_self
      -- Each head stands in the other list as well, and so the two have the same route.
      have same : first.route = second.route := route_eq (le_of_mem ordered back) (le_of_mem othersOrdered there)
      have heads := alike first.route
      simp only [ofRoute, List.filter_cons, same, decide_true, if_true, List.cons.injEq] at heads
      obtain ⟨rfl, tails⟩ := heads
      congr 1
      refine ih ordered.of_cons othersOrdered.of_cons fun route => ?_
      by_cases own : first.route = route
      · exact own ▸ tails
      · have others := alike route
        simpa [ofRoute, own] using others

theorem sorted_eq_iff (endpoints others : List Endpoint) :
    sorted endpoints = sorted others ↔ ∀ route, ofRoute route endpoints = ofRoute route others := by
  constructor
  · intro same route
    rw [← ofRoute_sorted, same, ofRoute_sorted]
  · intro alike
    refine eq_of_ofRoute (pairwise_sorted endpoints) (pairwise_sorted others) fun route => ?_
    rw [ofRoute_sorted, ofRoute_sorted, alike]

def Untied (endpoints : List Endpoint) : Prop :=
  endpoints.Pairwise fun first second => first.route ≠ second.route

theorem ofRoute_perm {endpoints others : List Endpoint} (permuted : endpoints.Perm others)
    (untied : Untied endpoints) (route : Text × Text) : ofRoute route endpoints = ofRoute route others := by
  have same : (ofRoute route endpoints).Perm (ofRoute route others) := permuted.filter _
  have apart : Untied (ofRoute route endpoints) := untied.filter _
  rcases found : ofRoute route endpoints with _ | ⟨first, _ | ⟨second, rest⟩⟩
  · rw [found] at same
    exact same.nil_eq
  · rw [found] at same
    exact same.singleton_eq
  · have own : ∀ endpoint ∈ first :: second :: rest, endpoint.route = route := by
      intro endpoint member
      rw [← found] at member
      exact (mem_ofRoute.mp member).2
    have firstRoute := own first List.mem_cons_self
    have secondRoute := own second (List.mem_cons_of_mem _ List.mem_cons_self)
    rw [found] at apart
    exact absurd (firstRoute.trans secondRoute.symm) (List.rel_of_pairwise_cons apart List.mem_cons_self)

end Endpoint

theorem ReportFormat.pieces_sorted {endpoints others : List Endpoint}
    (same : Endpoint.sorted endpoints = Endpoint.sorted others) (format : ReportFormat) :
    format.pieces endpoints = format.pieces others := by
  cases format with
  | text => simp only [pieces, Report.writtenLines, Report.lines, same]
  | table =>
    have empty : endpoints.isEmpty = others.isEmpty := by
      have lengths := congrArg List.length same
      simp only [Endpoint.sorted, List.length_mergeSort] at lengths
      rw [Bool.eq_iff_iff, List.isEmpty_iff_length_eq_zero, List.isEmpty_iff_length_eq_zero, lengths]
    simp only [pieces, Report.Table.document, Report.Table.drawn, same, empty]
  | json => simp only [pieces, Report.Json.writtenPieces, same]

namespace Endpoint

/-- Sorting loses nothing and changes nothing, puts smaller routes first, and leaves endpoints with the same route in
their order. What it gives is determined by the endpoints of each route, and so are the reports. -/
theorem sorted_by_route (endpoints : List Endpoint) :
    (sorted endpoints).Perm endpoints ∧
    ((sorted endpoints).Pairwise fun first second => Earlier first second ∨ first.route = second.route) ∧
    (∀ route, ofRoute route (sorted endpoints) = ofRoute route endpoints) ∧
    sorted (sorted endpoints) = sorted endpoints ∧
    ∀ others : List Endpoint,
      (sorted endpoints = sorted others ↔ ∀ route, ofRoute route endpoints = ofRoute route others) ∧
      (endpoints.Perm others -> Untied endpoints ->
        sorted endpoints = sorted others ∧
        ∀ format : ReportFormat, format.pieces endpoints = format.pieces others) := by
  have ordered := pairwise_sorted endpoints
  refine ⟨List.mergeSort_perm endpoints le, ordered.imp fun {first second} => (le_iff_earlier first second).mp,
    fun route => ofRoute_sorted route endpoints, List.mergeSort_of_pairwise ordered, fun others => ?_⟩
  refine ⟨sorted_eq_iff endpoints others, fun permuted untied => ?_⟩
  have same : sorted endpoints = sorted others :=
    (sorted_eq_iff endpoints others).mpr (ofRoute_perm permuted untied)
  exact ⟨same, ReportFormat.pieces_sorted same⟩

theorem shuffled_routes_reported_alike :
    let post : Endpoint := { method := "POST", path := "/a", declaration := "A#add", file := "A.java" }
    let get : Endpoint := { method := "GET", path := "/a", declaration := "A#list", file := "A.java" }
    let first : Endpoint := { method := "PUT", path := "/", declaration := "B#put", file := "B.java" }
    let endpoints := [post, get, first]
    let others := [first, get, post]
    endpoints.Perm others ∧ Untied endpoints ∧ sorted endpoints = others ∧
    ∀ format : ReportFormat, format.pieces endpoints = format.pieces others := by
  intro post get first endpoints others
  have permuted : endpoints.Perm others := by decide
  have untied : Untied endpoints := by
    unfold Untied
    decide
  have inOrder : sorted others = others := List.mergeSort_of_pairwise (by decide)
  obtain ⟨-, -, -, -, determined⟩ := sorted_by_route endpoints
  obtain ⟨same, alike⟩ := (determined others).2 permuted untied
  exact ⟨permuted, untied, same.trans inOrder, alike⟩

end Endpoint

end RouteAtlas
