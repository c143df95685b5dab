import Polyglot.Client.Fetch
import Polyglot.Client.View

/-!
# Calls

A call changes the view of a client: it starts the client, switches the language or adds a
namespace. It needs bundles, and each time it waits for one, so that other calls may go on in
between; what it does then depends on the view as it is when the bundle arrives. Every bundle
brings a call nearer to its end as long as it is alone, which the rank of a call measures.
-/
namespace Polyglot

/-- What is fixed for a client. -/
structure ClientPlan where
  defaultLanguage : String
  /-- the language when detection finds none; null where it cannot be looked up -/
  fallbackLanguage : Key
  /-- the namespaces to start with, as far as they can be looked up -/
  spaces : List (Option Key)

/-- What a call does once the translations of the default language are complete. -/
inductive Sequel
  | switched (language : String)
  /-- returns the bundle of the added namespace -/
  | added (bundle : Bundle)
  /-- adds the namespaces to start with that are left -/
  | started (language : Key) (left : List (Option Key))

/-- A call that waits for a bundle. -/
inductive Call
  /-- the bundle of a language to switch to -/
  | switchBase (language : String)
  /-- a namespace of a language to switch to, by its place among the loaded ones -/
  | switchSpace (language : String) (merged : Bundle) (index : Nat) (space : Key)
  /-- the bundle of the language to start with -/
  | startBase (language : Key) (left : List (Option Key))
  /-- a namespace of the active language; `start` tells what is left of a start -/
  | newSpace (language space : Key) (start : Option (Key × List (Option Key)))
  /-- the bundle of the default language -/
  | fallback (sequel : Sequel)
  /-- a namespace of the default language, by its place among the loaded ones -/
  | fallbackSpace (index : Nat) (space : Key) (sequel : Sequel)

/-- Why a call fails. -/
inductive CallFault
  | load (fault : LoadFault)
  /-- the detector fails, or a language or a namespace is none -/
  | other (failure : Failure)

def CallFault.failure : CallFault → Failure
  | load f => f.failure
  | other f => f

/-- The fault of a call for a language or a namespace that cannot be looked up. -/
def CallFault.noKey : CallFault := other (.plain .wrongType "")

namespace Sequel

def left : Sequel → Nat
  | switched _ => 0
  | added _ => 0
  | started _ left => left.length

end Sequel

/-- How far a call is. -/
inductive Progress
  | waits (view : View) (events : List Event) (call : Call)
  /-- the result is a bundle when a namespace was added -/
  | ends (view : View) (events : List Event) (result : Except CallFault (Option Bundle))

namespace Progress

/-- Progress with events before its own. -/
def after (events : List Event) : Progress → Progress
  | waits v es c => waits v (events ++ es) c
  | ends v es r => ends v (events ++ es) r

end Progress

namespace Call

def wanted (p : ClientPlan) : Call → Key × Option Key
  | switchBase language => (language, none)
  | switchSpace language _ _ name => (language, name.space?)
  | startBase language _ => (language, none)
  | newSpace language name _ => (language, name.space?)
  | fallback _ => (p.defaultLanguage, none)
  | fallbackSpace _ name _ => (p.defaultLanguage, name.space?)

def prefixed (space : Key) (b : Bundle) : Bundle := Bundle.inNamespace space.name? b

/-! ## Ends -/

/-- Ends a call. `available` are the languages there are. -/
def finish (available : List String) (v : View) : Sequel → Progress
  | .switched language =>
      match v.detector with
      | none => .ends v [.languageChanged language] (.ok none)
      | some d =>
          let o := d.remember language available
          let v := { v with detector := some o.detector }
          match o.result with
          | .ok _ => .ends v (o.events ++ [.languageChanged language]) (.ok none)
          | .error f => .ends v o.events (.error (.other f))
  | .added b => .ends v [] (.ok (some b))
  | .started language [] =>
      .ends { v with isInitialized := true } [.clientInitialized language v.spaces] (.ok none)
  | .started language (some name :: left) =>
      .waits v [] (.newSpace v.language name (some (language, left)))
  | .started _ (none :: _) => .ends v [] (.error .noKey)

/-! ## The default language -/

/-- The first of some namespaces that is not known, with its place; the first of them has the
place `index`. -/
def firstUnknown (known : List Key) : List Key → Nat → Option (Nat × Key)
  | [], _ => none
  | s :: rest, index =>
      if s ∈ known then firstUnknown known rest (index + 1) else some (index, s)

/-- Loads what the default language lacks of the loaded namespaces, from a place on. -/
def completeFrom (available : List String) (v : View) (index : Nat) (q : Sequel) : Progress :=
  match firstUnknown v.fallbackSpaces (v.spaces.drop index) index with
  | some (i, name) => .waits v [] (.fallbackSpace i name q)
  | none => finish available v q

/-- Loads the bundle of the default language, unless it is there, and what it lacks of the
loaded namespaces. -/
def complete (available : List String) (v : View) (q : Sequel) : Progress :=
  match v.fallback with
  | none => .waits v [] (.fallback q)
  | some _ => completeFrom available v 0 q

/-- Completes the default language unless it is the active one; otherwise `q` follows. -/
def completeUnless (p : ClientPlan) (available : List String) (v : View) (language : Key)
    (q : Sequel) : Progress :=
  if language = .text p.defaultLanguage then finish available v q else complete available v q

/-- Makes a language with its translations the active one; then the default language is completed
and `q` follows. -/
def activate (p : ClientPlan) (available : List String) (v : View) (language : Key)
    (b : Bundle) (q : Sequel) : Progress :=
  let a := v.activate p.defaultLanguage language b
  match a.result with
  | .ok _ => (completeUnless p available a.view language q).after a.events
  | .error f => .ends a.view a.events (.error (.other f.failure))

/-! ## Steps -/

/-- Loads the namespaces of a language to switch to, from a place on, and then switches. -/
def overlay (p : ClientPlan) (available : List String) (v : View) (language : String)
    (merged : Bundle) (index : Nat) : Progress :=
  match v.spaces[index]? with
  | some name => .waits v [] (.switchSpace language merged index name)
  | none => activate p available v language merged (.switched language)

/-- Goes on with the bundle that a call waits for. A call fails with its own loads; a load that
fails for the default language is only reported. -/
def resume (p : ClientPlan) (available : List String) (v : View) (c : Call)
    (result : Except LoadFault Bundle) : Progress :=
  match c, result with
  | switchBase language, .ok b => overlay p available v language b 0
  | switchBase _, .error f => .ends v [] (.error (.load f))
  | switchSpace language merged index name, .ok b =>
      overlay p available v language (Entries.update merged (prefixed name b)) (index + 1)
  | switchSpace .., .error f => .ends v [] (.error (.load f))
  | startBase language left, .ok b => activate p available v language b (.started language left)
  | startBase .., .error f => .ends v [] (.error (.load f))
  | newSpace _ name start, .ok b =>
      let b := prefixed name b
      let v := v.addSpace name b
      let q : Sequel :=
        match start with
        | none => .added b
        | some (language, left) => .started language left
      if v.language = .text p.defaultLanguage then finish available (v.addFallbackSpace name b) q
      else complete available v q
  | newSpace .., .error f => .ends v [] (.error (.load f))
  | fallback q, .ok b => completeFrom available { v with fallback := some b } 0 q
  | fallback q, .error f =>
      (finish available v q).after [.defaultBundleUnavailable p.defaultLanguage f.text]
  | fallbackSpace index name q, .ok b =>
      completeFrom available (v.addFallbackSpace name (prefixed name b)) (index + 1) q
  | fallbackSpace index name q, .error f =>
      (completeFrom available v (index + 1) q).after
        [.defaultNamespaceUnavailable p.defaultLanguage name f.text]

/-! ## Beginnings -/

/-- Begins to switch to a language; nothing is done when it is the active one. -/
def switch (v : View) (language : String) : Progress :=
  if v.language = .text language then .ends v [] (.ok none) else .waits v [] (.switchBase language)

def addSpace (v : View) (name : Key) : Progress := .waits v [] (.newSpace v.language name none)

/-- Begins to start a client, in the language that is detected, or else in the active one. -/
def start (p : ClientPlan) (available : List String) (v : View) : Progress :=
  match v.detector with
  | none => .waits v [] (.startBase v.language p.spaces)
  | some d =>
      let o := d.detect available p.fallbackLanguage
      match o.result with
      | .ok .null => .ends v o.events (.error .noKey)
      | .ok language => .waits v o.events (.startBase language p.spaces)
      | .error f => .ends v o.events (.error (.other f))

/-! ## Termination -/

/-- How far a call is from its end: the namespaces a start has left, the stage, and the loaded
namespaces that the stage has left. -/
def rank (v : View) : Call → Nat × Nat × Nat
  | switchBase _ => (0, 3, 0)
  | switchSpace _ _ index _ => (0, 2, v.spaces.length - index)
  | startBase _ left => (left.length, 2, 0)
  | newSpace _ _ none => (0, 2, 0)
  | newSpace _ _ (some start) => (start.2.length, 2, 0)
  | fallback q => (q.left, 1, 0)
  | fallbackSpace index _ q => (q.left, 0, v.spaces.length - index)

end Call

/-- The order of ranks. -/
def RankLt : Nat × Nat × Nat → Nat × Nat × Nat → Prop :=
  Prod.Lex (· < ·) (Prod.Lex (· < ·) (· < ·))

namespace Progress

def IsBelow (bound : Nat × Nat × Nat) : Progress → Prop
  | waits v _ c => RankLt (c.rank v) bound
  | ends .. => True

theorem isBelow_after {bound : Nat × Nat × Nat} {events : List Event} {p : Progress}
    (h : p.IsBelow bound) : (p.after events).IsBelow bound := by
  cases p <;> exact h

end Progress

namespace Call

theorem rankLt_left {a b : Nat} {x y : Nat × Nat} (h : a < b) : RankLt (a, x) (b, y) :=
  .left _ _ h

theorem rankLt_stage {a b c x y : Nat} (h : b < c) : RankLt (a, b, x) (a, c, y) :=
  .right _ (.left _ _ h)

theorem rankLt_index {a b x y : Nat} (h : x < y) : RankLt (a, b, x) (a, b, y) :=
  .right _ (.right _ h)

theorem isBelow_finish (available : List String) (v : View) (q : Sequel) (x : Nat × Nat) :
    (finish available v q).IsBelow (q.left, x) := by
  cases q with
  | switched language =>
    simp only [finish]
    split
    · trivial
    · split <;> trivial
  | added b => trivial
  | started language left =>
    match left with
    | [] => trivial
    | some name :: left => exact rankLt_left (Nat.lt_succ_self _)
    | none :: left => trivial

theorem firstUnknown_bounds {known : List Key} {names : List Key} {index i : Nat}
    {name : Key} (h : firstUnknown known names index = some (i, name)) :
    index ≤ i ∧ i < index + names.length := by
  induction names generalizing index with
  | nil => simp [firstUnknown] at h
  | cons s rest ih =>
    simp only [firstUnknown] at h
    split at h
    · have := ih h
      simp only [List.length_cons]
      omega
    · simp only [Option.some.injEq, Prod.mk.injEq] at h
      simp only [List.length_cons]
      omega

/-- A namespace that is still to be loaded lies between the place looked from and the end. -/
theorem completeFrom_cases (available : List String) (v : View) (index : Nat) (q : Sequel) :
    completeFrom available v index q = finish available v q ∨
      ∃ i name, index ≤ i ∧ i < v.spaces.length ∧
        completeFrom available v index q = .waits v [] (.fallbackSpace i name q) := by
  unfold completeFrom
  split
  · rename_i i name h
    have hb := firstUnknown_bounds h
    simp only [List.length_drop] at hb
    exact .inr ⟨i, name, hb.1, by omega, rfl⟩
  · exact .inl rfl

theorem isBelow_completeFrom (available : List String) (v : View) (index : Nat) (q : Sequel)
    (x : Nat) {stage : Nat} (hs : 0 < stage) :
    (completeFrom available v index q).IsBelow (q.left, stage, x) := by
  rcases completeFrom_cases available v index q with h | ⟨i, name, -, -, h⟩
  · rw [h]; exact isBelow_finish available v q _
  · rw [h]; exact rankLt_stage hs

theorem isBelow_completeFrom_succ (available : List String) (v : View) (index n : Nat) (q : Sequel)
    (hn : n = v.spaces.length) :
    (completeFrom available v (index + 1) q).IsBelow (q.left, 0, n - index) := by
  rcases completeFrom_cases available v (index + 1) q with h | ⟨i, name, h1, h2, h⟩
  · rw [h]; exact isBelow_finish available v q _
  · rw [h]; exact rankLt_index (by omega)

theorem isBelow_complete (available : List String) (v : View) (q : Sequel) (x : Nat)
    {stage : Nat} (hs : 1 < stage) : (complete available v q).IsBelow (q.left, stage, x) := by
  unfold complete
  split
  · exact rankLt_stage hs
  · exact isBelow_completeFrom available v 0 q x (by omega)

theorem isBelow_completeUnless (p : ClientPlan) (available : List String) (v : View)
    (language : Key) (q : Sequel) (x : Nat) {stage : Nat} (hs : 1 < stage) :
    (completeUnless p available v language q).IsBelow (q.left, stage, x) := by
  unfold completeUnless
  split
  · exact isBelow_finish available v q _
  · exact isBelow_complete available v q x hs

theorem isBelow_activate (p : ClientPlan) (available : List String) (v : View) (language : Key)
    (b : Bundle) (q : Sequel) (x : Nat) {stage : Nat} (hs : 1 < stage) :
    (activate p available v language b q).IsBelow (q.left, stage, x) := by
  simp only [activate]
  split
  · exact Progress.isBelow_after (isBelow_completeUnless p available _ language q x hs)
  · trivial

theorem isBelow_overlay_succ (p : ClientPlan) (available : List String) (v : View)
    (language : String) (merged : Bundle) (index : Nat) :
    (overlay p available v language merged (index + 1)).IsBelow
      (0, 2, v.spaces.length - index) := by
  unfold overlay
  split
  · rename_i name h
    have : index + 1 < v.spaces.length := (List.getElem?_eq_some_iff.1 h).1
    exact rankLt_index (by omega)
  · exact isBelow_activate p available v language merged (.switched language) _ (by omega)

theorem isBelow_overlay (p : ClientPlan) (available : List String) (v : View)
    (language : String) (merged : Bundle) :
    (overlay p available v language merged 0).IsBelow (0, 3, 0) := by
  unfold overlay
  split
  · exact rankLt_stage (by omega)
  · exact isBelow_activate p available v language merged (.switched language) _ (by omega)

/-- A call comes nearer to its end with every bundle. -/
theorem isBelow_resume (p : ClientPlan) (available : List String) (v : View) (c : Call)
    (result : Except LoadFault Bundle) : (c.resume p available v result).IsBelow (c.rank v) := by
  cases c with
  | switchBase language =>
    cases result with
    | ok b => exact isBelow_overlay p available v language b
    | error f => trivial
  | switchSpace language merged index name =>
    cases result with
    | ok b => exact isBelow_overlay_succ p available v language _ index
    | error f => trivial
  | startBase language left =>
    cases result with
    | ok b =>
      exact isBelow_activate p available v language b (.started language left) _ (by omega)
    | error f => trivial
  | newSpace language name start =>
    cases result with
    | error f => trivial
    | ok b =>
      simp only [resume]
      cases start with
      | none =>
        split
        · exact isBelow_finish available _ (.added _) _
        · exact isBelow_complete available _ (.added _) _ (by omega)
      | some start =>
        obtain ⟨first, left⟩ := start
        split
        · exact isBelow_finish available _ (.started first left) _
        · exact isBelow_complete available _ (.started first left) _ (by omega)
  | fallback q =>
    cases result with
    | ok b => exact isBelow_completeFrom available _ 0 q _ (by omega)
    | error f => exact Progress.isBelow_after (isBelow_finish available v q _)
  | fallbackSpace index name q =>
    cases result with
    | ok b =>
      exact isBelow_completeFrom_succ available (v.addFallbackSpace name (prefixed name b))
        index _ q
        rfl
    | error f =>
      exact Progress.isBelow_after (isBelow_completeFrom_succ available v index _ q rfl)

end Call
end Polyglot
