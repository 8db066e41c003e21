import PettyFlow.Foundation.Tasks
import PettyFlow.Frontend.ServiceWorker

/-! Where the worker's answers come from: for the API from the network alone, and for everything else
also from a cache, which goes on answering with the response that it once took.
-/

namespace PettyFlow.Frontend

open Foundation

/-- A path of the API, for which the worker asks the network first. -/
def IsApi (url : Url) : Prop := "/v1/".toList <+: url.pathname.toList

instance (url : Url) : Decidable (IsApi url) := by
  unfold IsApi
  infer_instance

/-! ### Caches -/

/-- What holds of every response in a cache. -/
def EachCached (p : Url → Response → Prop) (caches : Dict String (Dict Url Response)) : Prop :=
  ∀ name cache,
    caches.get? name = some cache → ∀ url response, cache.get? url = some response → p url response

section Caches

variable {p q : Url → Response → Prop} {caches : Dict String (Dict Url Response)}

theorem EachCached.imp (each : EachCached p caches)
    (weaker : ∀ url response, p url response → q url response)
    : EachCached q caches :=
  fun name cache opened url response cached =>
    weaker url response (each name cache opened url response cached)

theorem get?_foldl_set (entries : List (Url × Response)) (cache : Dict Url Response)
    {url : Url} {response : Response}
    (cached
      : (entries.foldl (fun cache entry => cache.set entry.1 entry.2) cache).get? url
        = some response)
    : (url, response) ∈ entries ∨ cache.get? url = some response := by
  induction entries generalizing cache with
  | nil => exact Or.inr cached
  | cons entry rest ih =>
      rcases ih _ cached with later | before
      · exact Or.inl (List.mem_cons_of_mem _ later)
      · rw [Dict.get?_set] at before
        split at before
        · rename_i same
          cases before
          rw [← same]
          exact Or.inl List.mem_cons_self
        · exact Or.inr before

theorem get?_foldl_set_of_ne {entries : List (Url × Response)} {url : Url}
    (other : ∀ entry ∈ entries, entry.1 ≠ url) (cache : Dict Url Response)
    : (entries.foldl (fun cache entry => cache.set entry.1 entry.2) cache).get? url
      = cache.get? url := by
  induction entries generalizing cache with
  | nil => rfl
  | cons entry rest ih =>
      obtain ⟨head, tail⟩ := List.forall_mem_cons.mp other
      rw [List.foldl_cons, ih tail, Dict.get?_set_ne _ _ head]

theorem EachCached.put {s : ServiceWorker} (each : EachCached p s.caches) (name : String)
    {entries : List (Url × Response)} (holds : ∀ entry ∈ entries, p entry.1 entry.2)
    : EachCached p (s.put name entries).caches := by
  intro other cache opened url response cached
  rw [ServiceWorker.put, Dict.get?_set] at opened
  split at opened
  · cases opened
    rcases get?_foldl_set entries _ cached with new | old
    · exact holds _ new
    · rw [ServiceWorker.cache, Dict.getD] at old
      cases present : s.caches.get? name with
      | none => simp [present] at old
      | some before =>
          rw [present] at old
          exact each name before present url response old
  · exact each other cache opened url response cached

theorem EachCached.match {s : ServiceWorker} (each : EachCached p s.caches) {url : Url}
    {response : Response} (found : s.cachesMatch url = some response)
    : p url response := by
  obtain ⟨⟨name, cache⟩, member, cached⟩ := List.exists_of_findSome?_eq_some found
  exact each name cache ((Dict.mem_entries_iff ..).mp member) url response cached

theorem EachCached.activate {s : ServiceWorker} (each : EachCached p s.caches)
    : EachCached p s.activate.caches := by
  intro name cache opened
  rw [ServiceWorker.activate, Dict.get?_filter] at opened
  exact each name cache (Option.filter_eq_some_iff.mp opened).1

end Caches

/-! ### What the network has given -/

/-- A response that a cache may hold: it was there before, or the network has given it to an
installation or to a request that is not for the API.
-/
def Known (old : Dict String (Dict Url Response)) (given : List Given) (url : Url)
    (response : Response)
    : Prop :=
  (∃ name cache, old.get? name = some cache ∧ cache.get? url = some response)
  ∨ (⟨none, url, response⟩ ∈ given ∧ response.Ok)
  ∨ ∃ task, ⟨some task, url, response⟩ ∈ given ∧ response.Cacheable ∧ ¬ IsApi url

/-- Where the answer of a task comes from, and what the task may still do. -/
structure Grounded (old : Dict String (Dict Url Response)) (given : List Given) (number : Nat)
    (task : FetchTask)
    : Prop where
  api : task.phase = .fetchingApi → IsApi task.request.url
  shell : task.phase = .matching ∨ task.phase = .fetchingShell → ¬ IsApi task.request.url
  answer
    : ∀ response,
        task.phase = .answered (.response response)
        → ⟨some number, task.request.url, response⟩ ∈ given
          ∨ if IsApi task.request.url then
              response = offlineResponse
            else
              Known old given task.request.url response
  caching
    : ∀ response ∈ task.responseToCache,
        ⟨some number, task.request.url, response⟩ ∈ given
        ∧ response.Cacheable
        ∧ ¬ IsApi task.request.url

section Grounded

variable {old : Dict String (Dict Url Response)} {given more : List Given}

theorem Known.mono {url : Url} {response : Response} (known : Known old given url response)
    : Known old (given ++ more) url response := by
  rcases known with before | ⟨member, ok⟩ | ⟨task, member, fit⟩
  · exact Or.inl before
  · exact Or.inr (Or.inl ⟨List.mem_append_left _ member, ok⟩)
  · exact Or.inr (Or.inr ⟨task, List.mem_append_left _ member, fit⟩)

theorem Grounded.mono {number : Nat} {task : FetchTask} (grounded : Grounded old given number task)
    : Grounded old (given ++ more) number task := by
  refine ⟨grounded.api, grounded.shell, ?_, ?_⟩
  · intro response answered
    refine (grounded.answer response answered).imp (List.mem_append_left _) ?_
    split
    · exact id
    · exact Known.mono
  · intro response caching
    obtain ⟨member, fit⟩ := grounded.caching response caching
    exact ⟨List.mem_append_left _ member, fit⟩

end Grounded

/-! ### Steps -/

/-- Every cached response is known, and every task is grounded. -/
structure Sourced (old : Dict String (Dict Url Response)) (s : ServiceWorker) : Prop where
  caches : EachCached (Known old s.given) s.caches
  tasks : EachTask (Grounded old s.given) s.tasks

namespace ServiceWorker

variable {old : Dict String (Dict Url Response)} {s : ServiceWorker}

theorem sourced_initial (old : Dict String (Dict Url Response)) : Sourced old (initial old) where
  caches := fun name cache opened _ _ cached => Or.inl ⟨name, cache, opened, cached⟩
  tasks := eachTask_nil

theorem sourced_note (sourced : Sourced old s) (more : List Given) : Sourced old (s.note more) where
  caches := sourced.caches.imp (fun _ _ => Known.mono)
  tasks := sourced.tasks.imp (fun _ _ => Grounded.mono)

theorem sourced_put (sourced : Sourced old s) {entries : List (Url × Response)}
    (known : ∀ entry ∈ entries, Known old s.given entry.1 entry.2)
    : Sourced old (s.put cacheName entries) where
  caches := sourced.caches.put cacheName known
  tasks := sourced.tasks

theorem sourced_addTask (sourced : Sourced old s) {request : Request} {phase : FetchPhase}
    (grounded : Grounded old s.given s.tasks.length ⟨request, phase, none⟩)
    : Sourced old (s.addTask request phase) where
  caches := sourced.caches
  tasks := sourced.tasks.add grounded

theorem sourced_setTask (sourced : Sourced old s) {number : Nat} {task : FetchTask}
    (grounded : Grounded old s.given number task)
    : Sourced old (s.setTask number task) where
  caches := sourced.caches
  tasks := sourced.tasks.set grounded

/-- A task with an answer that waits for nothing more. -/
theorem grounded_answered {given : List Given} {number : Nat} {request : Request}
    {answer : FetchAnswer}
    (source
      : ∀ response,
          answer = .response response
          → ⟨some number, request.url, response⟩ ∈ given
            ∨ if IsApi request.url then
                response = offlineResponse
              else
                Known old given request.url response)
    : Grounded old given number ⟨request, .answered answer, none⟩ where
  api := by simp
  shell := by simp
  answer := fun response answered => source response (FetchPhase.answered.inj answered)
  caching := by simp

theorem sourced_install (sourced : Sourced old s) (origin : String)
    (responses : List (Option Response))
    : Sourced old (s.install origin responses) := by
  unfold install
  extract_lets urls arrived noted
  have kept : Sourced old noted := sourced_note sourced _
  split
  · rename_i complete
    apply sourced_put kept
    intro entry member
    exact Or.inr (Or.inl ⟨List.mem_append_right _ (List.mem_map.mpr ⟨entry, member, rfl⟩),
      complete.2 entry member⟩)
  · exact sourced_put kept (List.forall_mem_nil _)

theorem sourced_fetch (sourced : Sourced old s) (request : Request)
    : Sourced old (s.fetch request) := by
  unfold fetch
  split
  · exact sourced_addTask sourced (grounded_answered (by simp))
  split
  · rename_i api
    exact sourced_addTask sourced ⟨fun _ => api, by simp, by simp, by simp⟩
  · rename_i shell
    exact sourced_addTask sourced ⟨by simp, fun _ => shell, by simp, by simp⟩

theorem sourced_matched (sourced : Sourced old s) (number : Nat)
    : Sourced old (s.matched number) := by
  unfold matched
  split
  · rename_i request waiting
    have shell := (sourced.tasks number _ waiting).shell (Or.inl rfl)
    split
    · rename_i cachedResponse found
      apply sourced_setTask sourced
      apply grounded_answered
      intro response same
      cases same
      rw [if_neg shell]
      exact Or.inr (sourced.caches.match found)
    · exact sourced_setTask sourced ⟨by simp, fun _ => shell, by simp, by simp⟩
  · exact sourced

theorem sourced_arrived (sourced : Sourced old s) (number : Nat)
    (networkResponse : Option Response)
    : Sourced old (s.arrived number networkResponse) := by
  unfold arrived
  split
  · rename_i request waiting
    have api := (sourced.tasks number _ waiting).api rfl
    split
    · rename_i response
      apply sourced_setTask (sourced_note sourced _)
      apply grounded_answered
      intro other same
      cases same
      exact Or.inl (List.mem_append_right _ List.mem_cons_self)
    · apply sourced_setTask sourced
      apply grounded_answered
      intro other same
      cases same
      rw [if_pos api]
      exact Or.inr rfl
  · rename_i request waiting
    have shell := (sourced.tasks number _ waiting).shell (Or.inr rfl)
    split
    · rename_i response
      apply sourced_setTask (sourced_note sourced _)
      have given : ⟨some number, request.url, response⟩
          ∈ (s.note [⟨some number, request.url, response⟩]).given :=
        List.mem_append_right _ List.mem_cons_self
      refine ⟨by simp, by simp, ?_, ?_⟩
      · intro other same
        cases same
        exact Or.inl given
      · intro other caching
        dsimp only at caching
        split at caching
        · rename_i fit
          cases caching
          exact ⟨given, fit, shell⟩
        · cases caching
    · exact sourced_setTask sourced (grounded_answered (by simp))
  · exact sourced

theorem sourced_stored (sourced : Sourced old s) (number : Nat) (opens puts : Bool)
    : Sourced old (s.stored number opens puts) := by
  unfold stored
  split
  · rename_i request phase response waiting
    obtain ⟨api, shell, answer, caching⟩ := sourced.tasks number _ waiting
    have done : Sourced old (s.setTask number ⟨request, phase, none⟩) :=
      sourced_setTask sourced ⟨api, shell, answer, by simp⟩
    dsimp only
    split
    · apply sourced_put done
      cases puts with
      | false => exact List.forall_mem_nil _
      | true =>
          rw [if_pos rfl, List.forall_mem_singleton]
          obtain ⟨member, fit⟩ := caching response rfl
          exact Or.inr (Or.inr ⟨number, member, fit⟩)
    · exact done
  · exact sourced

theorem exec_sourced (old : Dict String (Dict Url Response)) (steps : List WorkerStep)
    : Sourced old (workerMachine.exec (initial old) steps) := by
  apply workerMachine.exec_invariant_of_step _ (sourced_initial old)
  intro s step sourced
  cases step with
  | install origin responses => exact sourced_install sourced origin responses
  | activate => exact ⟨sourced.caches.activate, sourced.tasks⟩
  | fetch request => exact sourced_fetch sourced request
  | matched task => exact sourced_matched sourced task
  | arrived task networkResponse => exact sourced_arrived sourced task networkResponse
  | stored task opens puts => exact sourced_stored sourced task opens puts

/-- In every run, a GET of the API is answered with the response that the network gave to that very
request or with the offline error, and any other request with a response of the network to it or
with one that a cache may hold; and no cache holds another one.
-/
theorem answers_sourced (old : Dict String (Dict Url Response)) (steps : List WorkerStep)
    : EachCached (Known old (workerMachine.exec (initial old) steps).given)
          (workerMachine.exec (initial old) steps).caches
      ∧ EachTask
          (fun number task =>
            ∀ response,
              task.phase = .answered (.response response)
              → ⟨some number, task.request.url, response⟩
                  ∈ (workerMachine.exec (initial old) steps).given
                ∨ if IsApi task.request.url then
                    response = offlineResponse
                  else
                    Known old (workerMachine.exec (initial old) steps).given task.request.url
                      response)
          (workerMachine.exec (initial old) steps).tasks :=
  ⟨(exec_sourced old steps).caches,
    (exec_sourced old steps).tasks.imp (fun _ _ grounded => grounded.answer)⟩

/-! ### A response that stays -/

/-- The step does not install an asset of this URL. -/
def Spares (url : Url) (step : WorkerStep) : Prop :=
  ∀ origin responses,
    step = .install origin responses → ∀ path ∈ staticAssets, url ≠ ⟨origin, path, ""⟩

/-- The worker's cache has the response, and no other cache is searched before it that has one. -/
structure Holds (s : ServiceWorker) (url : Url) (response : Response) : Prop where
  cached : (s.cache cacheName).get? url = some response
  first : s.cachesMatch url = some response

/-- A task for the URL waits neither for the network nor for the cache to be written, and a new one
is answered from the cache.
-/
structure Settled (url : Url) (response : Response) (since number : Nat) (task : FetchTask)
    : Prop where
  phase : task.request.url = url → task.phase ≠ .fetchingShell
  caching : task.request.url = url → task.responseToCache = none
  later
    : since ≤ number
      → task.request = ⟨"GET", url⟩
      → task.phase = .matching ∨ task.phase = .answered (.response response)

theorem findSome?_assign {url : Url} {before after : Dict Url Response}
    (same : after.get? url = before.get? url) (entries : List (String × Dict Url Response))
    (found : Dict.find cacheName entries = some before)
    : (Dict.assign cacheName after entries).findSome? (fun entry => entry.2.get? url)
      = entries.findSome? (fun entry => entry.2.get? url) := by
  induction entries with
  | nil => cases found
  | cons entry rest ih =>
      obtain ⟨name, cache⟩ := entry
      rw [Dict.find] at found
      rw [Dict.assign]
      by_cases here : name = cacheName
      · rw [if_pos here] at found ⊢
        cases found
        simp only [List.findSome?_cons, same]
      · rw [if_neg here] at found ⊢
        simp only [List.findSome?_cons, ih found]

theorem get?_cacheName {s : ServiceWorker} {url : Url} {response : Response}
    (cached : (s.cache cacheName).get? url = some response)
    : s.caches.get? cacheName = some (s.cache cacheName) := by
  cases opened : s.caches.get? cacheName with
  | none => simp [cache, Dict.getD, opened] at cached
  | some present => simp [cache, Dict.getD, opened]

/-- Writing other URLs into the worker's cache leaves what is found for this one. -/
theorem Holds.put {s : ServiceWorker} {url : Url} {response : Response}
    (holds : s.Holds url response) {entries : List (Url × Response)}
    (other : ∀ entry ∈ entries, entry.1 ≠ url)
    : (s.put cacheName entries).Holds url response := by
  have same := get?_foldl_set_of_ne other (s.cache cacheName)
  constructor
  · rw [cache, ServiceWorker.put, Dict.getD, Dict.get?_set_self]
    exact same.trans holds.cached
  · exact (findSome?_assign same s.caches.entries (get?_cacheName holds.cached)).trans holds.first

/-- The worker's cache is the only one, as it is from each activation on. -/
def Alone (s : ServiceWorker) : Prop :=
  ∀ name cache, s.caches.get? name = some cache → name = cacheName

theorem activate_alone (s : ServiceWorker) : s.activate.Alone := by
  intro name cache opened
  rw [ServiceWorker.activate, Dict.get?_filter] at opened
  exact of_decide_eq_true (Option.filter_eq_some_iff.mp opened).2

/-- Where there is no other cache, none is searched before the worker's own. -/
theorem Alone.holds {s : ServiceWorker} (alone : s.Alone) {url : Url} {response : Response}
    (cached : (s.cache cacheName).get? url = some response)
    : s.Holds url response where
  cached := cached
  first := by
    have own := get?_cacheName cached
    cases found : s.cachesMatch url with
    | none =>
        have missing := List.findSome?_eq_none_iff.mp found _ ((Dict.mem_entries_iff ..).mpr own)
        exact absurd cached (by simp [missing])
    | some other =>
        obtain ⟨⟨name, present⟩, member, here⟩ := List.exists_of_findSome?_eq_some found
        have opened := (Dict.mem_entries_iff ..).mp member
        obtain rfl := alone name present opened
        rw [own] at opened
        cases opened
        exact here.symm.trans cached

theorem Holds.activate {s : ServiceWorker} {url : Url} {response : Response}
    (holds : s.Holds url response)
    : s.activate.Holds url response := by
  apply (activate_alone s).holds
  rw [cache, Dict.getD, ServiceWorker.activate, Dict.get?_filter, get?_cacheName holds.cached]
  exact holds.cached

/-- The response is found for the URL, and no task can change this. -/
structure Fixed (url : Url) (response : Response) (since : Nat) (s : ServiceWorker) : Prop where
  holds : s.Holds url response
  tasks : EachTask (Settled url response since) s.tasks

section Fixed

variable {url : Url} {response : Response} {since : Nat}

/-- Nothing is asked of a task for another URL. -/
theorem settled_other {number : Nat} {task : FetchTask} (other : task.request.url ≠ url)
    : Settled url response since number task where
  phase := fun same => absurd same other
  caching := fun same => absurd same other
  later := by
    intro _ same
    rw [same] at other
    exact absurd rfl other

theorem Fixed.setTask (fixed : s.Fixed url response since) {number : Nat} {task : FetchTask}
    (settled : Settled url response since number task)
    : (s.setTask number task).Fixed url response since where
  holds := ⟨fixed.holds.cached, fixed.holds.first⟩
  tasks := fixed.tasks.set settled

theorem Fixed.note (fixed : s.Fixed url response since) (given : List Given)
    : (s.note given).Fixed url response since where
  holds := ⟨fixed.holds.cached, fixed.holds.first⟩
  tasks := fixed.tasks

theorem Fixed.put (fixed : s.Fixed url response since) {entries : List (Url × Response)}
    (other : ∀ entry ∈ entries, entry.1 ≠ url)
    : (s.put cacheName entries).Fixed url response since where
  holds := fixed.holds.put other
  tasks := fixed.tasks

theorem fixed_install (fixed : s.Fixed url response since) {origin : String}
    {responses : List (Option Response)} (spares : Spares url (.install origin responses))
    : (s.install origin responses).Fixed url response since := by
  unfold install
  extract_lets urls arrived noted
  have kept : noted.Fixed url response since := fixed.note _
  split
  · apply kept.put
    intro entry member same
    obtain ⟨⟨asset, fetched⟩, pair, taken⟩ := List.mem_filterMap.mp member
    obtain ⟨body, _, rfl⟩ := Option.map_eq_some_iff.mp taken
    obtain ⟨path, listed, rfl⟩ := List.mem_map.mp (List.of_mem_zip pair).1
    exact spares origin responses rfl path listed same.symm
  · exact kept.put (List.forall_mem_nil _)

theorem fixed_fetch (fixed : s.Fixed url response since) (shell : ¬ IsApi url) (request : Request)
    : (s.fetch request).Fixed url response since := by
  have added {phase : FetchPhase} (settled : Settled url response since s.tasks.length
      ⟨request, phase, none⟩) : (s.addTask request phase).Fixed url response since :=
    ⟨⟨fixed.holds.cached, fixed.holds.first⟩, fixed.tasks.add settled⟩
  have socket : ¬ "/v1/ws".toList <+: url.pathname.toList := by
    intro starts
    exact shell (List.IsPrefix.trans (by decide) starts)
  unfold fetch
  split
  · rename_i bypassed
    refine added ⟨by simp, by simp, ?_⟩
    rintro _ rfl
    rcases bypassed with method | starts
    · exact absurd rfl method
    · exact absurd starts socket
  split
  · rename_i api
    refine added ⟨by simp, by simp, ?_⟩
    rintro _ rfl
    exact absurd api shell
  · exact added ⟨by simp, by simp, fun _ _ => Or.inl rfl⟩

theorem fixed_matched (fixed : s.Fixed url response since) (number : Nat)
    : (s.matched number).Fixed url response since := by
  unfold matched
  split
  · rename_i request waiting
    by_cases same : request.url = url
    · rw [same, fixed.holds.first]
      exact fixed.setTask ⟨by simp, by simp, fun _ _ => Or.inr rfl⟩
    · split
      · exact fixed.setTask (settled_other same)
      · exact fixed.setTask (settled_other same)
  · exact fixed

theorem fixed_arrived (fixed : s.Fixed url response since) (number : Nat)
    (networkResponse : Option Response)
    : (s.arrived number networkResponse).Fixed url response since := by
  unfold arrived
  split
  · rename_i request waiting
    have before := (fixed.tasks number _ waiting).later
    have settled (answer : FetchAnswer)
        : Settled url response since number ⟨request, .answered answer, none⟩ := by
      refine ⟨by simp, by simp, fun late same => ?_⟩
      have := before late same
      simp at this
    split
    · exact (fixed.note _).setTask (settled _)
    · exact fixed.setTask (settled _)
  · rename_i request waiting
    have other : request.url ≠ url :=
      fun same => (fixed.tasks number _ waiting).phase same rfl
    split
    · exact (fixed.note _).setTask (settled_other other)
    · exact fixed.setTask (settled_other other)
  · exact fixed

theorem fixed_stored (fixed : s.Fixed url response since) (number : Nat) (opens puts : Bool)
    : (s.stored number opens puts).Fixed url response since := by
  unfold stored
  split
  · rename_i request phase stored waiting
    have other : request.url ≠ url := by
      intro same
      have none := (fixed.tasks number _ waiting).caching same
      cases none
    have done : (s.setTask number ⟨request, phase, none⟩).Fixed url response since :=
      fixed.setTask (settled_other other)
    dsimp only
    split
    · apply done.put
      cases puts with
      | false => exact List.forall_mem_nil _
      | true => exact List.forall_mem_singleton.mpr other
    · exact done
  · exact fixed

theorem exec_fixed (fixed : s.Fixed url response since) (shell : ¬ IsApi url)
    {steps : List WorkerStep} (spared : ∀ step ∈ steps, Spares url step)
    : (workerMachine.exec s steps).Fixed url response since := by
  induction steps generalizing s with
  | nil => exact fixed
  | cons step rest ih =>
      obtain ⟨spares, later⟩ := List.forall_mem_cons.mp spared
      apply ih _ later
      cases step with
      | install origin responses => exact fixed_install fixed spares
      | activate => exact ⟨fixed.holds.activate, fixed.tasks⟩
      | fetch request => exact fixed_fetch fixed shell request
      | matched task => exact fixed_matched fixed task
      | arrived task networkResponse => exact fixed_arrived fixed task networkResponse
      | stored task opens puts => exact fixed_stored fixed task opens puts

end Fixed

/-- Once a response is found in the worker's cache for a URL that is not of the API and no request
for it is under way, every later GET of the URL is answered with that response, whatever the
network would give, unless the assets are installed again and the URL is one of them.
-/
theorem cached_answer_stays (s : ServiceWorker) {url : Url} {response : Response}
    (holds : s.Holds url response) (shell : ¬ IsApi url)
    (idle
      : ∀ task ∈ s.tasks,
          task.request.url = url
          → task.phase ≠ .fetchingShell ∧ task.responseToCache = none)
    {steps : List WorkerStep} (spared : ∀ step ∈ steps, Spares url step)
    : EachTask
        (fun number task =>
          s.tasks.length ≤ number
          → task.request = ⟨"GET", url⟩
          → task.phase = .matching ∨ task.phase = .answered (.response response))
        (workerMachine.exec s steps).tasks := by
  have fixed : s.Fixed url response s.tasks.length := by
    refine ⟨holds, fun number task found => ?_⟩
    have quiet := idle task (List.mem_of_getElem? found)
    refine ⟨fun same => (quiet same).1, fun same => (quiet same).2, fun late => ?_⟩
    exact absurd (List.getElem?_eq_some_iff.mp found).1 (not_lt.mpr late)
  exact (exec_fixed fixed shell spared).tasks.imp (fun _ _ settled => settled.later)

/-- The summary of the reports is not under the path of the API, so that its first response stays. -/
theorem cached_answer_stays_sample
    : let url : Url := ⟨"https://pettyflow", "/api/v1/reports/spend-summary", "?tenant_id=T1"⟩
      let response : Response := ⟨200, .basic, "application/json", "first"⟩
      let later : Response := ⟨200, .basic, "application/json", "second"⟩
      let s :=
        workerMachine.exec (.initial .empty)
          [.fetch ⟨"GET", url⟩, .matched 0, .arrived 0 (some response), .stored 0 true true]
      EachTask
        (fun number task =>
          s.tasks.length ≤ number
          → task.request = ⟨"GET", url⟩
          → task.phase = .matching ∨ task.phase = .answered (.response response))
        (workerMachine.exec s [.fetch ⟨"GET", url⟩, .matched 1, .arrived 1 (some later)]).tasks :=
  cached_answer_stays _ ⟨by decide, by decide⟩ (by decide) (by decide) (by simp [Spares])

end ServiceWorker

end PettyFlow.Frontend
