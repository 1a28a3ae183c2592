import IncidentTriage.Verified.EvidenceService

/-! # The scope of what is asked

Whatever callers ask for, the adapters are only asked about the neighborhood of the incident, in
its environment, within the limits on time and size.  What an incident is about never changes, so
a request that was in scope when it was sent is so for ever.
-/

namespace IncidentTriage.Verified

open IncidentTriage.Python IncidentTriage.Domain IncidentTriage.Incident
open IncidentTriage.Evidence IncidentTriage.Evidence.EvidenceService
open IncidentTriage.Tools (EvidenceError)

/-! ## Labels -/

/-- The text of a label: nothing in it ends the string of a selector. -/
structure LabelBody (body : List Char) : Prop where
  head : ∃ c rest, body = c :: rest ∧ isLabelHead c = true
  tail : ∀ c ∈ body, isLabelHead c = true ∨ c = '-'
  length : body.length ≤ 63

/-- A text that the pattern accepts: a label, which may be followed by a newline. -/
def IsLabel (text : String) : Prop :=
  ∃ body, LabelBody body ∧ (text.toList = body ∨ text.toList = body ++ ['\n'])

theorem labelBody_iff {body : List Char} :
    (body.head?.any isLabelHead && body.all (fun c => isLabelHead c || c == '-') &&
      decide (body.length ≤ 63)) = true ↔ LabelBody body := by
  simp only [Bool.and_eq_true, Option.any_eq_true, List.all_eq_true, Bool.or_eq_true, beq_iff_eq,
    decide_eq_true_eq]
  constructor
  · rintro ⟨⟨⟨c, first, head⟩, tail⟩, length⟩
    obtain ⟨rest, rfl⟩ := List.head?_eq_some_iff.mp first
    exact ⟨⟨c, rest, rfl, head⟩, tail, length⟩
  · rintro ⟨⟨c, rest, rfl, head⟩, tail, length⟩
    exact ⟨⟨⟨c, rfl, head⟩, tail⟩, length⟩

theorem matchesLabel_iff (text : String) : matchesLabel text = true ↔ IsLabel text := by
  have newline : ∀ body, LabelBody body → body.getLast? ≠ some '\n' := by
    intro body label last
    rcases label.tail _ (List.mem_of_getLast? last) with head | hyphen
    · exact absurd head (by decide)
    · exact absurd hyphen (by decide)
  unfold matchesLabel
  rw [labelBody_iff]
  by_cases last : text.toList.getLast? = some '\n'
  · obtain ⟨body, split⟩ := List.getLast?_eq_some_iff.mp last
    rw [if_pos (beq_iff_eq.mpr last), split, List.dropLast_concat]
    constructor
    · exact fun label => ⟨body, label, .inr split⟩
    · rintro ⟨other, label, whole | ended⟩
      · exact absurd (whole ▸ last) (newline other label)
      · rw [split] at ended
        rwa [List.append_cancel_right ended]
  · rw [if_neg (by simpa using last)]
    constructor
    · exact fun label => ⟨_, label, .inl rfl⟩
    · rintro ⟨body, label, whole | ended⟩
      · rwa [whole]
      · exact absurd (by simp [ended]) last

/-! ## What is in scope -/

/-- The service may be asked about for the incident. -/
structure AllowedService (e : EvidenceEnv) (incident : IncidentRow) (service : String) : Prop where
  label : IsLabel service
  near : service ∈ e.catalog.neighborhood incident.service

/-- The window is within the limits of the incident. -/
def WindowWithin (incident : IncidentRow) (now : Time) (maxLength : Int) (start end_ : Time) :
    Prop :=
  InBounds { createdAt := incident.createdAt } now maxLength (start, end_)

def LimitWithin (maximum limit : Nat) : Prop := 0 < limit ∧ limit ≤ maximum

/-- What may be asked of an adapter for an incident. -/
def InScope (e : EvidenceEnv) (id : Uuid) (incident : IncidentRow) (now : Time) :
    BackendQuery → Prop
  | .metricWindow _ service environment start end_ =>
    AllowedService e incident service ∧ environment = incident.environment ∧
      WindowWithin incident now maxWindow start end_
  | .serviceHealth service environment at_ =>
    AllowedService e incident service ∧ environment = incident.environment ∧
      ∃ start, WindowWithin incident now maxWindow start at_
  | .queryLogs service start end_ _ _ _ limit =>
    AllowedService e incident service ∧ WindowWithin incident now maxWindow start end_ ∧
      LimitWithin Loki.maxLogLinesReturned limit
  | .getTrace _ => True
  | .search service start end_ mode _ limit =>
    AllowedService e incident service ∧ WindowWithin incident now maxWindow start end_ ∧
      mode ∈ searchModes ∧ LimitWithin maxTraces limit
  | .deployments service environment start end_ limit =>
    AllowedService e incident service ∧ environment = incident.environment ∧
      WindowWithin incident now maxChangeWindow start end_ ∧ LimitWithin maxDeployments limit
  | .configChanges service environment start end_ limit =>
    AllowedService e incident service ∧ environment = incident.environment ∧
      WindowWithin incident now maxChangeWindow start end_ ∧ LimitWithin maxConfigChanges limit
  | .codeChanges service paths start end_ _ limit =>
    AllowedService e incident service ∧ paths = e.catalog.repoPaths service ∧
      WindowWithin incident now maxChangeWindow start end_ ∧ LimitWithin maxCommits limit
  | .recentCommits service paths until_ referenceTime limit =>
    AllowedService e incident service ∧ paths = e.catalog.repoPaths service ∧ until_ = now ∧
      referenceTime = incident.createdAt ∧ LimitWithin maxCommits limit
  | .runtimeState service environment at_ =>
    AllowedService e incident service ∧ environment = incident.environment ∧ at_ = now
  | .searchSimilar incidentId service environment _ _ referenceTime limit =>
    incidentId = id ∧ service = incident.service ∧ environment = incident.environment ∧
      referenceTime = incident.createdAt ∧ LimitWithin maxSimilarIncidents limit

section
variable {e : EvidenceEnv} {s : Store} {id : Uuid} {incident : IncidentRow} {now : Time}

theorem serviceOrDefault_eq_ok {service : Option String} {target : String}
    (chosen : (scopeOf e.catalog s id incident).serviceOrDefault service = .ok target) :
    AllowedService e incident target := by
  simp only [QueryScope.serviceOrDefault] at chosen
  split_ifs at chosen with malformed outside
  cases chosen
  simp only [Bool.not_eq_true', Bool.not_eq_false] at malformed outside
  exact ⟨(matchesLabel_iff _).mp malformed, List.contains_iff_mem.mp outside⟩

theorem bounded_eq_ok {start end_ : Option SuppliedTime} {default_ maxLength : Int}
    {window : Time × Time}
    (resolved : (scopeOf e.catalog s id incident).bounded e start end_ now default_ maxLength =
      .ok window) : WindowWithin incident now maxLength window.1 window.2 := by
  unfold QueryScope.bounded at resolved
  split at resolved
  · rename_i window' within
    cases resolved
    exact IncidentScope.window_ok within
  · cases resolved

theorem boundedLimit_eq_ok {requested : Option Int} {default_ maximum limit : Nat}
    (positive : 0 < maximum) (bounded : boundedLimit requested default_ maximum = .ok limit) :
    LimitWithin maximum limit := by
  unfold boundedLimit at bounded
  simp only at bounded
  split_ifs at bounded with low
  cases bounded
  exact ⟨by omega, by omega⟩

/-- The parameters that are resolved against the scope of an incident are in scope. -/
theorem resolve_inScope {q : EvidenceQuery} {query : BackendQuery} (valid : q.validate = .ok ())
    (resolved : q.resolve e (scopeOf e.catalog s id incident) now = .ok query) :
    InScope e id incident now query := by
  cases q with
  | metricWindow =>
    simp only [EvidenceQuery.resolve, bind_eq_ok, pure_eq_ok] at resolved
    obtain ⟨target, chosen, window, within, rfl⟩ := resolved
    exact ⟨serviceOrDefault_eq_ok chosen, rfl, bounded_eq_ok within⟩
  | serviceHealth =>
    simp only [EvidenceQuery.resolve, bind_eq_ok, pure_eq_ok] at resolved
    obtain ⟨target, chosen, window, within, rfl⟩ := resolved
    exact ⟨serviceOrDefault_eq_ok chosen, rfl, window.1, bounded_eq_ok within⟩
  | logs =>
    simp only [EvidenceQuery.resolve, bind_eq_ok, pure_eq_ok] at resolved
    obtain ⟨target, chosen, window, within, limit, bounded, rfl⟩ := resolved
    exact ⟨serviceOrDefault_eq_ok chosen, bounded_eq_ok within,
      boundedLimit_eq_ok (by decide) bounded⟩
  | trace =>
    cases resolved
    trivial
  | traces service start end_ mode =>
    simp only [EvidenceQuery.resolve, bind_eq_ok, pure_eq_ok] at resolved
    obtain ⟨target, chosen, window, within, limit, bounded, rfl⟩ := resolved
    simp only [EvidenceQuery.validate] at valid
    split_ifs at valid with known
    exact ⟨serviceOrDefault_eq_ok chosen, bounded_eq_ok within, List.contains_iff_mem.mp known,
      boundedLimit_eq_ok (by decide) bounded⟩
  | recentDeployments =>
    simp only [EvidenceQuery.resolve, bind_eq_ok, pure_eq_ok] at resolved
    obtain ⟨window, within, target, chosen, limit, bounded, rfl⟩ := resolved
    exact ⟨serviceOrDefault_eq_ok chosen, rfl, bounded_eq_ok within,
      boundedLimit_eq_ok (by decide) bounded⟩
  | configChanges =>
    simp only [EvidenceQuery.resolve, bind_eq_ok, pure_eq_ok] at resolved
    obtain ⟨window, within, target, chosen, limit, bounded, rfl⟩ := resolved
    exact ⟨serviceOrDefault_eq_ok chosen, rfl, bounded_eq_ok within,
      boundedLimit_eq_ok (by decide) bounded⟩
  | codeChanges =>
    simp only [EvidenceQuery.resolve, bind_eq_ok, pure_eq_ok] at resolved
    obtain ⟨target, chosen, window, within, limit, bounded, rfl⟩ := resolved
    exact ⟨serviceOrDefault_eq_ok chosen, rfl, bounded_eq_ok within,
      boundedLimit_eq_ok (by decide) bounded⟩
  | recentCommits =>
    simp only [EvidenceQuery.resolve, bind_eq_ok, pure_eq_ok] at resolved
    obtain ⟨target, chosen, limit, bounded, rfl⟩ := resolved
    exact ⟨serviceOrDefault_eq_ok chosen, rfl, rfl, rfl, boundedLimit_eq_ok (by decide) bounded⟩
  | runtimeState =>
    simp only [EvidenceQuery.resolve, bind_eq_ok, pure_eq_ok] at resolved
    obtain ⟨target, chosen, rfl⟩ := resolved
    exact ⟨serviceOrDefault_eq_ok chosen, rfl, rfl⟩
  | similarIncidents =>
    simp only [EvidenceQuery.resolve, bind_eq_ok, pure_eq_ok] at resolved
    obtain ⟨limit, bounded, rfl⟩ := resolved
    exact ⟨rfl, rfl, rfl, rfl, boundedLimit_eq_ok (by decide) bounded⟩

/-- Scopes are made of what an incident never changes. -/
theorem InScope.later {incident' : IncidentRow} {query : BackendQuery}
    (inScope : InScope e id incident now query) (same : SameScope incident incident') :
    InScope e id incident' now query := by
  have allowed : ∀ {service}, AllowedService e incident service →
      AllowedService e incident' service :=
    fun allowed => ⟨allowed.label, by rw [same.service]; exact allowed.near⟩
  have window : ∀ {maxLength start end_}, WindowWithin incident now maxLength start end_ →
      WindowWithin incident' now maxLength start end_ := by
    intro maxLength start end_ within
    unfold WindowWithin
    rw [same.createdAt]
    exact within
  cases query with
  | metricWindow =>
    obtain ⟨service, environment, within⟩ := inScope
    exact ⟨allowed service, environment.trans same.environment.symm, window within⟩
  | serviceHealth =>
    obtain ⟨service, environment, start, within⟩ := inScope
    exact ⟨allowed service, environment.trans same.environment.symm, start, window within⟩
  | queryLogs =>
    obtain ⟨service, within, limit⟩ := inScope
    exact ⟨allowed service, window within, limit⟩
  | getTrace => trivial
  | search =>
    obtain ⟨service, within, mode, limit⟩ := inScope
    exact ⟨allowed service, window within, mode, limit⟩
  | deployments =>
    obtain ⟨service, environment, within, limit⟩ := inScope
    exact ⟨allowed service, environment.trans same.environment.symm, window within, limit⟩
  | configChanges =>
    obtain ⟨service, environment, within, limit⟩ := inScope
    exact ⟨allowed service, environment.trans same.environment.symm, window within, limit⟩
  | codeChanges =>
    obtain ⟨service, paths, within, limit⟩ := inScope
    exact ⟨allowed service, paths, window within, limit⟩
  | recentCommits =>
    obtain ⟨service, paths, until_, reference, limit⟩ := inScope
    exact ⟨allowed service, paths, until_, reference.trans same.createdAt.symm, limit⟩
  | runtimeState =>
    obtain ⟨service, environment, at_⟩ := inScope
    exact ⟨allowed service, environment.trans same.environment.symm, at_⟩
  | searchSimilar =>
    obtain ⟨own, service, environment, reference, limit⟩ := inScope
    exact ⟨own, service.trans same.service.symm, environment.trans same.environment.symm,
      reference.trans same.createdAt.symm, limit⟩

end

/-! ## Every run -/

/-- The request is in scope of its incident. -/
def RequestInScope (e : EvidenceEnv) (s : Store) (request : BackendRequest) : Prop :=
  ∃ incident, s.incidents[request.incidentId]? = some incident ∧
    InScope e request.incidentId incident request.at_ request.query

/-- The trace that is about to be stored passes through the neighborhood of the incident. -/
def TraceInScope (e : EvidenceEnv) (s : Store) (run : QueryRun)
    (o : EvidenceService.Observation) : Prop :=
  (∃ traceId, run.query = .trace traceId) → o.found = true →
    ∃ incident, s.incidents[run.incidentId]? = some incident ∧
      ∃ service ∈ o.services, service ∈ e.catalog.neighborhood incident.service

/-- The scope of a query is that of its incident. -/
def ScopeOfIncident (e : EvidenceEnv) (s : Store) (run : QueryRun) (scope : QueryScope) : Prop :=
  ∃ incident, s.incidents[run.incidentId]? = some incident ∧
    scope.allowedServices = e.catalog.neighborhood incident.service

structure AsksInScope (e : EvidenceEnv) (y : EvidenceSystem) : Prop where
  requests : ∀ request ∈ y.requests, RequestInScope e y.world.store request
  scopes : ∀ run ∈ y.queries, ∀ scope query, run.phase = .sent scope query →
    ScopeOfIncident e y.world.store run scope
  traces : ∀ run ∈ y.queries, ∀ scope o, run.phase = .observed scope o →
    TraceInScope e y.world.store run o

section
variable {e : EvidenceEnv} {s s' : Store} {y y' : EvidenceSystem}

theorem RequestInScope.later {request : BackendRequest} (inScope : RequestInScope e s request)
    (kept : ScopesKept s s') : RequestInScope e s' request := by
  obtain ⟨incident, found, within⟩ := inScope
  obtain ⟨incident', found', same⟩ := kept _ incident found
  exact ⟨incident', found', within.later same⟩

theorem ScopeOfIncident.later {run : QueryRun} {scope : QueryScope}
    (own : ScopeOfIncident e s run scope) (kept : ScopesKept s s') :
    ScopeOfIncident e s' run scope := by
  obtain ⟨incident, found, allowed⟩ := own
  obtain ⟨incident', found', same⟩ := kept _ incident found
  exact ⟨incident', found', by rw [same.service]; exact allowed⟩

theorem TraceInScope.later {run : QueryRun} {o : EvidenceService.Observation}
    (inScope : TraceInScope e s run o) (kept : ScopesKept s s') : TraceInScope e s' run o := by
  intro trace found
  obtain ⟨incident, stored, service, passed, near⟩ := inScope trace found
  obtain ⟨incident', stored', same⟩ := kept _ incident stored
  exact ⟨incident', stored', service, passed, by rw [same.service]; exact near⟩

/-- The content of a trace is checked before it is stored. -/
theorem accept_eq_ok {run : QueryRun} {scope : QueryScope} {reply o : EvidenceService.Observation}
    (own : ScopeOfIncident e s run scope) (accepted : run.query.accept scope reply = .ok o) :
    TraceInScope e s run o := by
  rintro ⟨traceId, trace⟩ found
  obtain ⟨incident, stored, allowed⟩ := own
  rw [trace] at accepted
  simp only [EvidenceQuery.accept] at accepted
  split_ifs at accepted with outside
  cases accepted
  rw [found, Bool.true_and, Bool.not_eq_true, Bool.not_eq_false', List.any_eq_true] at outside
  obtain ⟨service, passed, near⟩ := outside
  exact ⟨incident, stored, service, passed, allowed ▸ List.contains_iff_mem.mp near⟩

/-- The invariant after one query moved: what it is now has to be shown. -/
theorem AsksInScope.put (asks : AsksInScope e y) (grown : EvidenceGrown y y') {place : Nat}
    {run' : QueryRun} (queries : y'.queries = y.queries.set place run')
    (requests : ∀ request ∈ y'.requests,
      request ∈ y.requests ∨ RequestInScope e y'.world.store request)
    (scopes : ∀ scope query, run'.phase = .sent scope query →
      ScopeOfIncident e y'.world.store run' scope)
    (traces : ∀ scope o, run'.phase = .observed scope o →
      TraceInScope e y'.world.store run' o) : AsksInScope e y' := by
  refine ⟨fun request listed => ?_, fun run member scope query phase => ?_,
    fun run member scope o phase => ?_⟩
  · exact (requests request listed).elim
      (fun earlier => (asks.requests request earlier).later grown.scopes) id
  · rw [queries] at member
    rcases List.mem_or_eq_of_mem_set member with earlier | rfl
    · exact (asks.scopes run earlier scope query phase).later grown.scopes
    · exact scopes scope query phase
  · rw [queries] at member
    rcases List.mem_or_eq_of_mem_set member with earlier | rfl
    · exact (asks.traces run earlier scope o phase).later grown.scopes
    · exact traces scope o phase

/-- The requests and the queries stay as they were. -/
theorem AsksInScope.still (asks : AsksInScope e y) (grown : EvidenceGrown y y')
    (queries : y'.queries = y.queries) (requests : y'.requests = y.requests) :
    AsksInScope e y' where
  requests := fun request listed =>
    (asks.requests request (requests ▸ listed)).later grown.scopes
  scopes := fun run member scope query phase =>
    (asks.scopes run (queries ▸ member) scope query phase).later grown.scopes
  traces := fun run member scope o phase =>
    (asks.traces run (queries ▸ member) scope o phase).later grown.scopes

theorem EvidenceMove.asksInScope (move : EvidenceMove e y y') (asks : AsksInScope e y) :
    AsksInScope e y' := by
  have grown := move.grown
  cases move with
  | waits same => rwa [same]
  | asked run fresh moved =>
    subst moved
    refine ⟨asks.requests, fun other member scope query phase => ?_,
      fun other member scope o phase => ?_⟩
    · rcases List.mem_append.mp member with earlier | new
      · exact asks.scopes other earlier scope query phase
      · rw [List.mem_singleton.mp new, fresh] at phase
        cases phase
    · rcases List.mem_append.mp member with earlier | new
      · exact asks.traces other earlier scope o phase
      · rw [List.mem_singleton.mp new, fresh] at phase
        cases phase
  | sent place run now scope query row phase prepared moved =>
    subst moved
    obtain ⟨incident, found, rfl, valid, resolved⟩ := prepare_eq_ok prepared
    refine asks.put grown rfl (fun request listed => ?_) (fun scope query phase => ?_)
      (fun scope o phase => by cases phase)
    · rcases List.mem_append.mp listed with earlier | own
      · exact .inl earlier
      · obtain rfl := List.mem_singleton.mp own
        exact .inr ⟨incident, found, resolve_inScope valid resolved⟩
    · cases phase
      exact ⟨incident, found, rfl⟩
  | observed place run scope query reply o row phase accepted moved =>
    subst moved
    refine asks.put grown rfl (fun request listed => .inl listed)
      (fun scope query phase => by cases phase) (fun scope' o' phase' => ?_)
    cases phase'
    have own := asks.scopes run (List.mem_of_getElem? row) scope query phase
    have within : TraceInScope e y.world.store run o := accept_eq_ok own accepted
    exact within
  | refused place run error row phase moved =>
    subst moved
    exact asks.put grown rfl (fun request listed => .inl listed)
      (fun scope query phase => by cases phase) (fun scope o phase => by cases phase)
  | persisted place run scope o now id r row phase made fresh moved =>
    subst moved
    exact asks.put grown rfl (fun request listed => .inl listed)
      (fun scope query phase => by cases phase) (fun scope o phase => by cases phase)
  | registered place elapsed run r new s' row phase done moved =>
    subst moved
    exact asks.put grown rfl (fun request listed => .inl listed)
      (fun scope query phase => by cases phase) (fun scope o phase => by cases phase)
  | unregistered place elapsed run r error row phase raised moved =>
    subst moved
    exact asks.put grown rfl (fun request listed => .inl listed)
      (fun scope query phase => by cases phase) (fun scope o phase => by cases phase)
  | lost place run row unfinished moved =>
    subst moved
    exact asks.put grown rfl (fun request listed => .inl listed)
      (fun scope query phase => by cases phase) (fun scope o phase => by cases phase)
  | commanded event other moved =>
    subst moved
    exact asks.still grown rfl rfl

end

/-- No adapter is ever asked about anything that its incident does not allow. -/
theorem requests_inScope (e : EvidenceEnv) (clock : Time) (events : List EvidenceEvent) :
    AsksInScope e (evidenceFrom e clock events) := by
  refine Machine.state_invariant (P := AsksInScope e) ?_
    (fun y event asks => (step_evidenceMove e y event).asksInScope asks) events
  exact ⟨fun _ listed => absurd listed List.not_mem_nil,
    fun _ member => absurd member List.not_mem_nil,
    fun _ member => absurd member List.not_mem_nil⟩

/-- Loki is asked about the payments service. -/
theorem requests_inScope_paymentsLogs :
    ∃ request ∈ (evidenceFrom paymentsEvidenceEnv 0 paymentsLogs).requests,
      RequestInScope paymentsEvidenceEnv
        (evidenceFrom paymentsEvidenceEnv 0 paymentsLogs).world.store request := by
  have asked : 0 < (evidenceFrom paymentsEvidenceEnv 0 paymentsLogs).requests.length := by
    decide +kernel
  obtain ⟨request, listed⟩ := List.exists_mem_of_length_pos asked
  exact ⟨request, listed, (requests_inScope paymentsEvidenceEnv 0 paymentsLogs).requests _ listed⟩

end IncidentTriage.Verified
