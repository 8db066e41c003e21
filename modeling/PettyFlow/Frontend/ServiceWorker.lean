import PettyFlow.Foundation.Dict
import PettyFlow.Foundation.Machine

/-! The service worker of the custodian's web app, with the caches of the browser and the network.
Looking into the caches, an answer of the network and the writing of a cache are steps of their own,
between which other requests go on.
-/

namespace PettyFlow.Frontend

open Foundation

/-- A URL without its fragment, by which caches do not distinguish. -/
structure Url where
  origin : String
  pathname : String
  search : String
deriving DecidableEq

structure Request where
  method : String
  url : Url
deriving DecidableEq

inductive ResponseType where
  | basic
  | cors
  | default
  | opaqueResponse
  | opaqueRedirect
deriving DecidableEq

structure Response where
  status : Nat
  type : ResponseType
  contentType : String
  body : String
deriving DecidableEq

/-- What the worker makes of a request for a page. -/
inductive FetchAnswer where
  /-- The browser treats the request as if there were no worker. -/
  | bypassed
  | response (response : Response)
  | networkError
deriving DecidableEq

inductive FetchPhase where
  | fetchingApi
  | matching
  | fetchingShell
  | answered (answer : FetchAnswer)
deriving DecidableEq

/-- A request that the worker has seen, and the response that it is about to put into the cache. -/
structure FetchTask where
  request : Request
  phase : FetchPhase
  responseToCache : Option Response
deriving DecidableEq

/-- A response that the network has given, to a task or to an installation. -/
structure Given where
  task : Option Nat
  url : Url
  response : Response
deriving DecidableEq

/-- The caches by their names, the requests so far, and what the network has given. -/
structure ServiceWorker where
  caches : Dict String (Dict Url Response)
  tasks : List FetchTask
  given : List Given

def cacheName : String := "pettyflow-pwa-v1"

def staticAssets : List String := ["/", "/manifest.json", "/static/css/app.css", "/static/js/app.js"]

/-- What the worker answers for the API without a network. -/
def offlineResponse : Response :=
  ⟨503, .default, "application/json",
    "\x7b\"error\":\"Offline mode. Operation queued locally.\"\x7d"⟩

/-- A response that `addAll` takes. -/
def Response.Ok (response : Response) : Prop :=
  200 ≤ response.status ∧ response.status ≤ 299 ∧ response.status ≠ 206

/-- A response that the worker puts into its cache. -/
def Response.Cacheable (response : Response) : Prop :=
  response.status = 200 ∧ response.type = .basic

instance (response : Response) : Decidable response.Ok := by
  unfold Response.Ok
  infer_instance

instance (response : Response) : Decidable response.Cacheable := by
  unfold Response.Cacheable
  infer_instance

inductive WorkerStep where
  /-- The assets have been fetched, each with or without a response. -/
  | install (origin : String) (responses : List (Option Response))
  | activate
  | fetch (request : Request)
  /-- The caches have been searched for a task's request. -/
  | matched (task : Nat)
  /-- The network has responded to a task or failed. -/
  | arrived (task : Nat) (networkResponse : Option Response)
  /-- For a task, the cache has been opened or not, and then has been written or not. -/
  | stored (task : Nat) (opens puts : Bool)
deriving DecidableEq

namespace ServiceWorker

/-- Before the worker runs, the caches are as other versions of it have left them. -/
def initial (caches : Dict String (Dict Url Response)) : ServiceWorker := ⟨caches, [], []⟩

def cache (s : ServiceWorker) (name : String) : Dict Url Response := s.caches.getD name .empty

/-- The first response among the caches in the order of their creation. -/
def cachesMatch (s : ServiceWorker) (url : Url) : Option Response :=
  s.caches.entries.findSome? (fun entry => entry.2.get? url)

def put (s : ServiceWorker) (name : String) (entries : List (Url × Response)) : ServiceWorker :=
  {
    s with
    caches := s.caches.set name
      (entries.foldl (fun cache entry => cache.set entry.1 entry.2) (s.cache name))
  }

def note (s : ServiceWorker) (given : List Given) : ServiceWorker :=
  { s with given := s.given ++ given }

/-- The cache is opened before the assets are fetched, and takes all of them or none. -/
def install (s : ServiceWorker) (origin : String) (responses : List (Option Response))
    : ServiceWorker :=
  let urls : List Url := staticAssets.map (fun path => ⟨origin, path, ""⟩)
  let arrived : List (Url × Response) :=
    (urls.zip responses).filterMap (fun entry => entry.2.map (Prod.mk entry.1))
  let s := s.note (arrived.map (fun entry => ⟨none, entry.1, entry.2⟩))
  if arrived.length = urls.length ∧ ∀ entry ∈ arrived, entry.2.Ok then
    s.put cacheName arrived
  else
    s.put cacheName []

def activate (s : ServiceWorker) : ServiceWorker :=
  { s with caches := s.caches.filter (fun key _ => decide (key = cacheName)) }

def addTask (s : ServiceWorker) (request : Request) (phase : FetchPhase) : ServiceWorker :=
  { s with tasks := s.tasks ++ [⟨request, phase, none⟩] }

def setTask (s : ServiceWorker) (number : Nat) (task : FetchTask) : ServiceWorker :=
  { s with tasks := s.tasks.set number task }

def fetch (s : ServiceWorker) (request : Request) : ServiceWorker :=
  if request.method ≠ "GET" ∨ "/v1/ws".toList <+: request.url.pathname.toList then
    s.addTask request (.answered .bypassed)
  else if "/v1/".toList <+: request.url.pathname.toList then
    s.addTask request .fetchingApi
  else
    s.addTask request .matching

def matched (s : ServiceWorker) (number : Nat) : ServiceWorker :=
  match s.tasks[number]? with
  | some ⟨request, .matching, none⟩ =>
      match s.cachesMatch request.url with
      | some cachedResponse =>
          s.setTask number ⟨request, .answered (.response cachedResponse), none⟩
      | none => s.setTask number ⟨request, .fetchingShell, none⟩
  | _ => s

/-- A network response to an asset goes to the page, and into the cache if it is fit for it. -/
def arrived (s : ServiceWorker) (number : Nat) (networkResponse : Option Response)
    : ServiceWorker :=
  match s.tasks[number]? with
  | some ⟨request, .fetchingApi, none⟩ =>
      match networkResponse with
      | some response =>
          (s.note [⟨some number, request.url, response⟩]).setTask number
            ⟨request, .answered (.response response), none⟩
      | none => s.setTask number ⟨request, .answered (.response offlineResponse), none⟩
  | some ⟨request, .fetchingShell, none⟩ =>
      match networkResponse with
      | some response =>
          (s.note [⟨some number, request.url, response⟩]).setTask number
            ⟨request, .answered (.response response),
              if response.Cacheable then some response else none⟩
      | none => s.setTask number ⟨request, .answered .networkError, none⟩
  | _ => s

def stored (s : ServiceWorker) (number : Nat) (opens puts : Bool) : ServiceWorker :=
  match s.tasks[number]? with
  | some ⟨request, phase, some response⟩ =>
      let s := s.setTask number ⟨request, phase, none⟩
      if opens then s.put cacheName (if puts then [(request.url, response)] else []) else s
  | _ => s

end ServiceWorker

def workerMachine : Machine ServiceWorker WorkerStep Unit where
  step s step :=
    ((),
      match step with
      | .install origin responses => s.install origin responses
      | .activate => s.activate
      | .fetch request => s.fetch request
      | .matched task => s.matched task
      | .arrived task networkResponse => s.arrived task networkResponse
      | .stored task opens puts => s.stored task opens puts)

end PettyFlow.Frontend
