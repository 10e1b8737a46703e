import PagePress.Cache.Remote
import PagePress.Proofs.Text.Utf8

/-!
# Asking the shared cache

A cache that is kept by a server makes one call in each step, and what the step results in depends
on the reply to this call alone. The server may reply as it likes, by all the calls that it had
before; if it keeps what it is told to keep, the cache gives back what was set.
-/

namespace PagePress.RemoteCache

open Utf8

/-- What a step results in. Setting gives nothing. -/
abbrev Result := Except Fault (Option String)

/-- A server, by its reply to a call after the calls that came before. -/
abbrev Server := List Call → Call → Reply

/-- What is asked for is what the server was last told to keep under the key. -/
def Server.Keeps (server : Server) : Prop :=
  ∀ before key seconds html later,
    (∀ seconds' html', Call.setWithExpiry key seconds' html' ∉ later) →
      server (before ++ .setWithExpiry key seconds html :: later) (.get key) =
        .bytes html.toUTF8

def Call.kept? (key : String) : Call → Option String
  | .setWithExpiry key' _ html => if key' = key then some html else none
  | .get _ => none

def archive : Server
  | calls, .get key =>
    ((calls.reverse.findSome? (·.kept? key)).map fun html => .bytes html.toUTF8).getD .nothing
  | _, .setWithExpiry _ _ _ => .nothing

theorem keeps_archive : archive.Keeps := by
  intro before key seconds html later last
  have absent : later.reverse.findSome? (·.kept? key) = none := by
    rw [List.findSome?_eq_none_iff]
    intro call mem
    cases call with
    | get => rfl
    | setWithExpiry key' seconds' html' =>
      refine if_neg fun same => ?_
      subst same
      exact last seconds' html' (List.mem_reverse.mp mem)
  rw [archive, List.reverse_append, List.findSome?_append, List.reverse_cons,
    List.findSome?_append, absent]
  simp [Call.kept?]

/-- What is done with the cache. -/
inductive Step where
  | get (slug : String)
  | set (slug html : String)
deriving DecidableEq, Repr

namespace Step

def slug : Step → String
  | .get slug => slug
  | .set slug _ => slug

/-- The call that a step makes, where documents expire after the given time. -/
def call (seconds : Int) : Step → Call
  | .get slug => getCall slug
  | .set slug html => setCall seconds slug html

def result : Step → Reply → Result
  | .get _, reply => getResult reply
  | .set _ _, reply => (setResult reply).map fun _ => none

end Step

def Call.key : Call → String
  | .get key => key
  | .setWithExpiry key _ _ => key

def ask (server : Server) (call : Call) : StateM (List Call) Reply := do
  let made ← get
  set (made ++ [call])
  return server made call

def take (server : Server) (seconds : Int) (step : Step) : StateM (List Call) Result := do
  let reply ← ask server (step.call seconds)
  return step.result reply

/-- Takes steps. A step that fails does not keep the next one from being taken. -/
def run (server : Server) (seconds : Int) (steps : List Step) : StateM (List Call) (List Result) :=
  steps.mapM (take server seconds)

/-- What a step may result in, by the reply to its call. -/
def IsAnswer : Step → Reply → Result → Prop
  | _, .failure, result => result = .ok none
  | _, .crash, result => result = .error .crash
  | .set _ _, _, result => result = .ok none
  | .get _, .nothing, result => result = .ok none
  | .get _, .text s, result => result = .ok (some s)
  | .get _, .bytes b, result =>
    (∀ s, result = .ok (some s) ↔ octets b = encode s.toList) ∧
      (result = .error .badEncoding ↔ ∀ text, octets b ≠ encode text) ∧
        (result = .error .badEncoding ↔ IsMalformed (octets b))

/-- What steps have to result in, and which calls the server has to have had in the end. -/
structure IsServed (server : Server) (seconds : Int) (made : List Call) (steps : List Step)
    (results : List Result) (made' : List Call) : Prop where
  /-- Each step makes one call. -/
  called : made' = made ++ steps.map (·.call seconds)
  gets : ∀ slug, .get slug ∈ steps →
    (Step.get slug).call seconds = .get ("pageforge:render:" ++ slug)
  /-- What is set is sent, to be kept for the time given. -/
  sets : ∀ slug html, .set slug html ∈ steps →
    (Step.set slug html).call seconds =
      .setWithExpiry ("pageforge:render:" ++ slug) seconds html
  /-- Slugs share no key. -/
  apart : ∀ step ∈ steps, ∀ other ∈ steps,
    (step.call seconds).key = (other.call seconds).key → step.slug = other.slug
  length_eq : results.length = steps.length
  /-- Each result answers to the reply that the server has for the call. -/
  answered : ∀ front step back, steps = front ++ step :: back →
    ∃ result, results[front.length]? = some result ∧
      IsAnswer step (server (made ++ front.map (·.call seconds)) (step.call seconds)) result
  /-- What was set is got as it was, whenever the server replies with its bytes. -/
  returned : ∀ front slug html middle back,
    steps = (front ++ .set slug html :: middle) ++ .get slug :: back →
    octets html.toUTF8 = encode html.toList ∧
      (server (made ++ (front ++ .set slug html :: middle).map (·.call seconds))
            (.get ("pageforge:render:" ++ slug)) = .bytes html.toUTF8 →
        results[(front ++ .set slug html :: middle).length]? = some (.ok (some html)))
  /-- A server that keeps what it is told to keep replies with the bytes of what was set last. -/
  kept : server.Keeps → ∀ front slug html middle back,
    steps = (front ++ .set slug html :: middle) ++ .get slug :: back →
    (∀ other, .set slug other ∉ middle) →
      results[(front ++ .set slug html :: middle).length]? = some (.ok (some html))

/-! ## One step -/

theorem keyOf_injective : Function.Injective keyOf := fun _ _ same =>
  (String.append_right_inj _).mp same

theorem key_call (seconds : Int) (step : Step) : (step.call seconds).key = keyOf step.slug := by
  cases step <;> rfl

/-- A step after which something else is kept under the key of a slug sets this slug. -/
theorem exists_of_call_eq_set {seconds seconds' : Int} {step : Step} {slug html : String}
    (same : step.call seconds = .setWithExpiry (keyOf slug) seconds' html) :
    ∃ other, step = .set slug other := by
  cases step with
  | get slug' => cases same
  | set slug' other =>
    obtain ⟨key, -, -⟩ := Call.setWithExpiry.inj same
    exact ⟨other, by rw [keyOf_injective key]⟩

theorem getResult_bytes (b : ByteArray) :
    (∀ s, getResult (.bytes b) = .ok (some s) ↔ octets b = encode s.toList) ∧
      (getResult (.bytes b) = .error .badEncoding ↔ IsMalformed (octets b)) := by
  rw [← fromUTF8?_eq_none_iff]
  simp only [← fromUTF8?_eq_some_iff]
  cases read : String.fromUTF8? b <;> simp [getResult, read]

theorem isAnswer_result (step : Step) (reply : Reply) :
    IsAnswer step reply (step.result reply) := by
  cases step with
  | set slug html => cases reply <;> rfl
  | get slug =>
    cases reply with
    | bytes b =>
      obtain ⟨decoded, malformed⟩ := getResult_bytes b
      exact ⟨decoded, malformed.trans isMalformed_iff, malformed⟩
    | nothing => rfl
    | text s => rfl
    | failure => rfl
    | crash => rfl

theorem run_take (server : Server) (seconds : Int) (step : Step) (made : List Call) :
    (take server seconds step).run made =
      (step.result (server made (step.call seconds)), made ++ [step.call seconds]) := rfl

/-! ## Many steps -/

theorem run_run_cons (server : Server) (seconds : Int) (step : Step) (steps : List Step)
    (made : List Call) :
    (run server seconds (step :: steps)).run made =
      ((run server seconds steps).run (made ++ [step.call seconds])).map
        (step.result (server made (step.call seconds)) :: ·) id := by
  rw [run, List.mapM_cons, StateT.run_bind, run_take]
  rfl

theorem snd_run (server : Server) (seconds : Int) (steps : List Step) (made : List Call) :
    ((run server seconds steps).run made).2 = made ++ steps.map (·.call seconds) := by
  induction steps generalizing made with
  | nil => exact (List.append_nil made).symm
  | cons step steps ih =>
    rw [run_run_cons, Prod.map_snd, id, ih, List.map_cons, List.append_assoc,
      List.singleton_append]

theorem length_fst_run (server : Server) (seconds : Int) (steps : List Step) (made : List Call) :
    ((run server seconds steps).run made).1.length = steps.length := by
  induction steps generalizing made with
  | nil => rfl
  | cons step steps ih =>
    rw [run_run_cons, Prod.map_fst, List.length_cons, ih, List.length_cons]

/-- A step results in what it makes of the reply that the server has after the calls of the steps
before it. -/
theorem getElem?_fst_run (server : Server) (seconds : Int) (front : List Step) (step : Step)
    (back : List Step) (made : List Call) :
    ((run server seconds (front ++ step :: back)).run made).1[front.length]? =
      some (step.result (server (made ++ front.map (·.call seconds)) (step.call seconds))) := by
  induction front generalizing made with
  | nil =>
    rw [List.nil_append, run_run_cons, List.map_nil, List.append_nil]
    rfl
  | cons first front ih =>
    rw [List.cons_append, run_run_cons, Prod.map_fst, List.length_cons, List.getElem?_cons_succ,
      ih, List.map_cons, List.append_assoc, List.singleton_append]

/-- What was set last is what a server replies with that keeps it. -/
theorem reply_of_keeps {server : Server} (keeps : server.Keeps) (seconds : Int)
    (made : List Call) (front : List Step) (slug html : String) {middle : List Step}
    (last : ∀ other, .set slug other ∉ middle) :
    server (made ++ (front ++ .set slug html :: middle).map (·.call seconds))
      (.get (keyOf slug)) = .bytes html.toUTF8 := by
  have later : ∀ seconds' html',
      Call.setWithExpiry (keyOf slug) seconds' html' ∉ middle.map (·.call seconds) := by
    intro seconds' html' mem
    obtain ⟨step, hstep, same⟩ := List.mem_map.mp mem
    obtain ⟨other, rfl⟩ := exists_of_call_eq_set same
    exact last other hstep
  rw [List.map_append, List.map_cons, ← List.append_assoc]
  exact keeps _ _ _ _ _ later

theorem getElem?_fst_run_of_bytes (server : Server) (seconds : Int) (front : List Step)
    (slug html : String) (back : List Step) (made : List Call)
    (reply : server (made ++ front.map (·.call seconds)) (.get (keyOf slug)) =
      .bytes html.toUTF8) :
    ((run server seconds (front ++ .get slug :: back)).run made).1[front.length]? =
      some (.ok (some html)) := by
  have got : getResult (.bytes html.toUTF8) = .ok (some html) :=
    ((getResult_bytes html.toUTF8).1 html).mpr (octets_toUTF8 html)
  rw [getElem?_fst_run]
  exact congrArg some ((congrArg getResult reply).trans got)

/-- Whatever the server replies, each step makes one call, and results in what the reply to this
call tells. -/
theorem run_isServed (server : Server) (seconds : Int) (steps : List Step) (made : List Call) :
    IsServed server seconds made steps ((run server seconds steps).run made).1
      ((run server seconds steps).run made).2 where
  called := snd_run server seconds steps made
  gets _ _ := rfl
  sets _ _ _ := rfl
  apart step _ other _ same := by
    rw [key_call, key_call] at same
    exact keyOf_injective same
  length_eq := length_fst_run server seconds steps made
  answered front step back form := by
    subst form
    exact ⟨_, getElem?_fst_run server seconds front step back made, isAnswer_result step _⟩
  returned front slug html middle back form := by
    subst form
    exact ⟨octets_toUTF8 html, getElem?_fst_run_of_bytes server seconds _ slug html back made⟩
  kept keeps front slug html middle back form last := by
    subst form
    exact getElem?_fst_run_of_bytes server seconds _ slug html back made
      (reply_of_keeps keeps seconds made front slug html last)

end PagePress.RemoteCache
