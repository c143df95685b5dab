import Polyglot.Log.Adapter
import Polyglot.Proofs.Entries
import Polyglot.Proofs.Outcome

/-!
# Configurations one after the other

An adapter is configured and reset any number of times. The last configuration decides how lines
look, that one handler is attached, and the levels that it names. A level that it does not name
stays as an earlier configuration left it: neither a further configuration nor a reset takes it
back.
-/
namespace Polyglot

namespace LogTree

/-! ## Levels along a path -/

/-- The level of its own that a logger has; a level of zero is none. -/
def own? (t : LogTree) (name : String) : Option Nat := (Entries.get? t.levels name).filter (· ≠ 0)

theorem key_eq_self {name : String} (h : key name ≠ "") : key name = name := by
  unfold key at h ⊢
  split at h
  · exact absurd rfl h
  next hroot => rw [if_neg hroot]

theorem path_of_key_ne {name : String} (h : key name ≠ "") :
    path name = name :: ancestors name.toList.reverse := by
  rw [path, if_neg h, key_eq_self h]

theorem key_ne_of_isSdk {name : String} (h : isSdk name) : key name ≠ "" := by
  intro hkey
  rw [isSdk, path, if_pos hkey] at h
  exact absurd h (by decide)

theorem key_of_isSdk {name : String} (h : isSdk name) : key name = name :=
  key_eq_self (key_ne_of_isSdk h)

theorem path_sdk : path sdk = [sdk, ""] := rfl

theorem isSdk_sdk : isSdk sdk := rfl

theorem ancestors_dot (cs : List Char) :
    ancestors ('.' :: cs) = String.ofList cs.reverse :: ancestors cs := by
  rw [ancestors, if_pos rfl]

/-- On the way up to the logger of the library there are whole paths of loggers. -/
theorem path_of_sdk_mem {cs : List Char} (h : sdk ∈ ancestors ('.' :: cs)) :
    path (String.ofList cs.reverse) = ancestors ('.' :: cs) := by
  rw [ancestors_dot] at h ⊢
  have hkey : key (String.ofList cs.reverse) ≠ "" := by
    rcases List.mem_cons.1 h with htop | habove
    · rw [← htop]
      decide
    · intro hkey
      have hcs : cs = [] ∨ cs = ['t', 'o', 'o', 'r'] := by
        unfold key at hkey
        split at hkey
        next hroot => exact .inr (by simpa using congrArg (fun s => s.toList.reverse) hroot)
        next => exact .inl (by simpa using hkey)
      rcases hcs with rfl | rfl <;> exact absurd habove (by decide)
  rw [path_of_key_ne hkey, String.toList_ofList, List.reverse_reverse]

theorem effective_of_path {t : LogTree} {name : String} {above : List String}
    (h : path name = name :: above) :
    t.effective name = ((t.own? name).or (above.findSome? t.own?)).getD 0 := by
  have heffective : t.effective name = ((path name).findSome? t.own?).getD 0 := rfl
  rw [heffective, h, List.findSome?_cons]
  cases t.own? name <;> rfl

theorem effective_of_own? {t : LogTree} {name : String} (h : isSdk name) {m : Nat}
    (hm : t.own? name = some m) : t.effective name = m := by
  rw [effective_of_path (path_of_key_ne (key_ne_of_isSdk h)), hm]
  rfl

theorem effective_sdk_of_own?_eq_none {t : LogTree} (h : t.own? sdk = none) :
    t.effective sdk = t.effective "" := by
  rw [effective_of_path path_sdk, h]
  rfl

/-- What counts at the top of the library is its own level, or else that of the topmost logger. -/
theorem effective_sdk_eq_iff {t u : LogTree} (h : t.own? sdk = u.own? sdk) :
    t.effective sdk = u.effective sdk ↔
      (u.own? sdk = none → t.effective "" = u.effective "") := by
  cases hown : u.own? sdk with
  | some m =>
    rw [effective_of_own? isSdk_sdk hown, effective_of_own? isSdk_sdk (h.trans hown)]
    exact iff_of_true rfl nofun
  | none =>
    rw [effective_sdk_of_own?_eq_none hown, effective_sdk_of_own?_eq_none (h.trans hown)]
    exact ⟨fun heq _ => heq, fun heq => heq rfl⟩

/-- Two trees give the loggers of the library the same levels if they do so at the top of the
library, and if the own levels in the one are what counts in the other. -/
theorem effective_eq_of_own? {t u : LogTree} (htop : t.effective sdk = u.effective sdk)
    (hsome : ∀ n m, isSdk n → t.own? n = some m → u.effective n = m)
    (hnone : ∀ n, isSdk n → n ≠ sdk → t.own? n = none → u.own? n = none)
    {name : String} (h : isSdk name) : t.effective name = u.effective name := by
  -- by induction on the way up from the name, as far as the logger of the library
  have hway : ∀ cs, sdk ∈ ancestors cs →
      ((ancestors cs).findSome? t.own?).getD 0 = ((ancestors cs).findSome? u.own?).getD 0 := by
    intro cs
    induction cs with
    | nil => exact fun hmem => absurd hmem (by decide)
    | cons c r ih =>
      intro hmem
      by_cases hc : c = '.'
      · subst hc
        have hpath := path_of_sdk_mem hmem
        rw [ancestors_dot] at hmem hpath
        have hsdk : isSdk (String.ofList r.reverse) := by
          rw [isSdk, hpath]
          exact List.contains_iff_mem.2 hmem
        rw [ancestors_dot, ← hpath]
        show t.effective _ = u.effective _
        by_cases hlast : String.ofList r.reverse = sdk
        · rw [hlast, htop]
        · have habove := ih ((List.mem_cons.1 hmem).resolve_left (Ne.symm hlast))
          cases hown : t.own? (String.ofList r.reverse) with
          | some m => rw [effective_of_own? hsdk hown, hsome _ m hsdk hown]
          | none =>
            rw [effective_of_path hpath, effective_of_path hpath, hown,
              hnone _ hsdk hlast hown]
            exact habove
      · rw [ancestors, if_neg hc] at hmem ⊢
        exact ih hmem
  have hpath := path_of_key_ne (key_ne_of_isSdk h)
  have hname := hway ('.' :: name.toList.reverse)
  rw [ancestors_dot, List.reverse_reverse, String.ofList_toList, ← hpath] at hname
  exact hname (List.contains_iff_mem.1 h)

/-! ## The keys of loggers -/

theorem key_eq_iff_of_isSdk {name other : String} (h : isSdk name) :
    key other = name ↔ other = name := by
  constructor
  · intro hkey
    have hne : key other ≠ "" := hkey ▸ key_of_isSdk h ▸ key_ne_of_isSdk h
    rw [← hkey, key_eq_self hne]
  · rintro rfl
    exact key_of_isSdk h

theorem text_of_loggerName? {k : Key} {name : String} (h : loggerName? k = some name)
    (hname : name ≠ "") : k = .text name := by
  unfold loggerName? at h
  split at h
  · rw [Option.some.inj h]
  · split at h
    · cases h
    · exact absurd (Option.some.inj h).symm hname

/-- A key that is no text is not shown like a logger of the library, if it is one of a logger. -/
theorem text_of_isSdk_display {k : Key} {name : String} (hname : loggerName? k = some name)
    (h : isSdk k.display) : k = .text k.display := by
  cases k with
  | text s => rfl
  | null => exact absurd h (by decide +kernel)
  | bool b =>
    cases b with
    | false => exact absurd h (by decide +kernel)
    | true => cases hname
  | int n =>
    obtain rfl : n = 0 := by
      by_contra hne
      simp [loggerName?, Key.truthy, Key.toValue, Value.truthy, hne] at hname
    exact absurd h (by decide +kernel)
  | float x =>
    cases x with
    | finite sign m e =>
      obtain rfl : m = 0 := by
        by_contra hne
        simp [loggerName?, Key.truthy, Key.toValue, Value.truthy, hne] at hname
      have hzero : (Key.float (.finite sign 0 e)).display =
          String.ofList ((if sign then ['-'] else []) ++ ['0', '.', '0']) := by
        simp [Key.display, Key.literal, Binary64.text]
      rw [hzero] at h
      cases sign <;> exact absurd h (by decide +kernel)
    | _ => cases hname
  | date d => cases hname
  | moment m => cases hname

end LogTree

namespace LogPlan

/-- What a level with the key of a logger stands for, under the name of the logger. -/
def number (e : Key × String) : Except LogFault (String × Nat) :=
  match LogTree.loggerName? e.1 with
  | none => .error (.noLevel false)
  | some name =>
      match LogTree.levelName (Text.upper e.2) with
      | .level n => .ok (LogTree.key name, n)
      | .other isText => .error (.noLevel isText)

/-- The levels that are set of a list: those before the first that is refused. -/
def numbers : List (Key × String) → List (String × Nat)
  | [] => []
  | e :: r =>
      match number e with
      | .ok n => n :: numbers r
      | .error _ => []

theorem exists_loggerName?_of_number {e : Key × String} {n : String × Nat}
    (h : number e = .ok n) :
    ∃ name, LogTree.loggerName? e.1 = some name ∧ n.1 = LogTree.key name := by
  rw [number] at h
  split at h
  · cases h
  · rename_i name hname
    split at h
    · cases h
      exact ⟨name, hname, rfl⟩
    · cases h

/-- Where no level is refused, all keys are those of loggers. -/
theorem exists_loggerName?_of_mapM {es : List (Key × String)} {ns : List (String × Nat)}
    (h : es.mapM number = .ok ns) {e : Key × String} (he : e ∈ es) :
    ∃ name, LogTree.loggerName? e.1 = some name := by
  induction Outcome.mapM_eq_ok_iff.1 h with
  | nil => cases he
  | cons hnumber hrest ih =>
    rcases List.mem_cons.1 he with rfl | hr
    · obtain ⟨name, hname, -⟩ := exists_loggerName?_of_number hnumber
      exact ⟨name, hname⟩
    · exact ih (Outcome.mapM_eq_ok_iff.2 hrest) hr

/-- Where no level is refused, all loggers get one. -/
theorem mem_keys_numbers_iff {es : List (Key × String)} {ns : List (String × Nat)}
    (h : es.mapM number = .ok ns) {key : String} :
    key ∈ Entries.keys (numbers es) ↔
      ∃ e ∈ es, ∃ name, LogTree.loggerName? e.1 = some name ∧ LogTree.key name = key := by
  induction Outcome.mapM_eq_ok_iff.1 h with
  | nil => simp [numbers, Entries.keys]
  | cons hnumber hrest ih =>
    obtain ⟨name, hname, hkey⟩ := exists_loggerName?_of_number hnumber
    simp only [List.mem_cons, exists_eq_or_imp, ← ih (Outcome.mapM_eq_ok_iff.2 hrest), numbers,
      hnumber, hname]
    simp [Entries.keys, hkey, eq_comm]

theorem keys_shown (p : LogPlan) :
    Entries.keys p.shown = p.modules.map fun e => e.1.display := by
  simp [Entries.keys, shown]

/-- The levels that are set, in order. -/
def levels (p : LogPlan) : List (Key × String) := (.text LogTree.sdk, p.root) :: p.modules

/-- How the handler writes lines. -/
def lineFormat (p : LogPlan) : LogFormat := if p.format = "json" then .json else .console

end LogPlan

namespace LogAdapter

/-! ## One configuration -/

/-- The outcome of setting levels does not depend on the levels that there are. -/
theorem setLevels_snd (a : LogAdapter) (es : List (Key × String)) :
    (a.setLevels es).2 = (es.mapM LogPlan.number).map fun _ => () := by
  induction es generalizing a with
  | nil => rfl
  | cons e r ih =>
    obtain ⟨k, level⟩ := e
    rw [List.mapM_cons, setLevels, setLevelUnder, LogPlan.number]
    cases LogTree.loggerName? k with
    | none => rfl
    | some name =>
      simp only [setLevel]
      cases LogTree.levelName (Text.upper level) with
      | level n =>
        refine (ih _).trans ?_
        cases r.mapM LogPlan.number <;> rfl
      | other isText => rfl

/-- Setting levels changes nothing else. -/
theorem setLevels_fst (a : LogAdapter) (es : List (Key × String)) :
    (a.setLevels es).1 =
      { a with
        tree := { a.tree with levels := Entries.update a.tree.levels (LogPlan.numbers es) } } := by
  induction es generalizing a with
  | nil => rfl
  | cons e r ih =>
    obtain ⟨k, level⟩ := e
    rw [setLevels, setLevelUnder, LogPlan.numbers, LogPlan.number]
    cases LogTree.loggerName? k with
    | none => rfl
    | some name =>
      simp only [setLevel]
      cases LogTree.levelName (Text.upper level) with
      | level n => exact ih _
      | other isText => rfl

/-- An adapter that was given a plan. -/
def planned (a : LogAdapter) (p : LogPlan) : LogAdapter where
  tree := ⟨Entries.update a.tree.levels (LogPlan.numbers p.levels),
    a.others ++ [⟨a.nextId, p.lineFormat⟩], false⟩
  own := some ⟨a.nextId, p.lineFormat⟩
  nextId := a.nextId + 1
  rootLevel := p.root
  moduleLevels := p.shown
  format := p.format

theorem configure_fst_of_read {c : Config} {env : Config.Environment} {p : LogPlan}
    (h : LogPlan.read c env = .ok p) (a : LogAdapter) : (a.configure c env).1 = a.planned p := by
  rw [configure, h]
  exact setLevels_fst _ _

/-- The outcome of a configuration does not depend on what was before it. -/
theorem configure_snd (a b : LogAdapter) (c : Config) (env : Config.Environment) :
    (a.configure c env).2 = (b.configure c env).2 := by
  unfold configure
  cases LogPlan.read c env with
  | error f => rfl
  | ok p => exact (setLevels_snd _ _).trans (setLevels_snd _ _).symm

theorem exists_read_of_configure {a : LogAdapter} {c : Config} {env : Config.Environment}
    (h : (a.configure c env).2 = .ok ()) :
    ∃ p ns, LogPlan.read c env = .ok p ∧ p.levels.mapM LogPlan.number = .ok ns := by
  rw [configure] at h
  split at h
  next f _ => cases h
  next p hp =>
    obtain ⟨ns, hns, -⟩ := Outcome.map_eq_ok_iff.1 ((setLevels_snd _ _).symm.trans h)
    exact ⟨p, ns, hp, hns⟩

/-! ## Calls one after the other -/

/-- An adapter that was not used, over loggers of which those of the library have no levels. -/
structure IsFresh (a : LogAdapter) : Prop where
  own : a.own = none
  handlers : a.tree.handlers = []
  levels : ∀ n, LogTree.isSdk n → Entries.get? a.tree.levels n = none

theorem isFresh_create : create.IsFresh where
  own := rfl
  handlers := rfl
  levels n h := by
    have hne : n ≠ "" := LogTree.key_of_isSdk h ▸ LogTree.key_ne_of_isSdk h
    simp [create, Entries.get?, Ne.symm hne]

/-- The logger of the library has the adapter's handler and no other. -/
def HasOwnOnly (a : LogAdapter) : Prop := a.tree.handlers = a.own.toList

theorem IsFresh.hasOwnOnly {a : LogAdapter} (h : a.IsFresh) : a.HasOwnOnly := by
  rw [HasOwnOnly, h.handlers, h.own]
  rfl

theorem HasOwnOnly.others {a : LogAdapter} (h : a.HasOwnOnly) : a.others = [] := by
  unfold LogAdapter.others
  split <;> rename_i hown <;> rw [h, hown] <;> simp

theorem HasOwnOnly.act {a : LogAdapter} (h : a.HasOwnOnly) (call : Call) :
    (a.act call).HasOwnOnly := by
  cases call with
  | configure c env =>
    rw [LogAdapter.act]
    cases hread : LogPlan.read c env with
    | error f => rwa [configure, hread]
    | ok p =>
      rw [configure_fst_of_read hread, HasOwnOnly, planned, h.others]
      rfl
  | reset =>
    rw [LogAdapter.act, reset]
    split
    · exact h
    · exact h.others

theorem HasOwnOnly.run {a : LogAdapter} (h : a.HasOwnOnly) (calls : List Call) :
    (a.run calls).HasOwnOnly := by
  induction calls generalizing a with
  | nil => exact h
  | cons call rest ih => exact ih (h.act call)

/-- The levels that a call sets, in order. -/
def Call.levels : Call → List (String × Nat)
  | .configure c env =>
      match LogPlan.read c env with
      | .ok p => LogPlan.numbers p.levels
      | .error _ => []
  | .reset => []

theorem levels_act (a : LogAdapter) (call : Call) :
    (a.act call).tree.levels = Entries.update a.tree.levels call.levels := by
  cases call with
  | configure c env =>
    rw [act, Call.levels]
    cases hread : LogPlan.read c env with
    | error f =>
      rw [configure, hread]
      rfl
    | ok p =>
      rw [configure_fst_of_read hread]
      rfl
  | reset =>
    rw [act, reset]
    split <;> rfl

/-- No call takes a level back. -/
theorem levels_run (a : LogAdapter) (calls : List Call) :
    (a.run calls).tree.levels = Entries.update a.tree.levels (calls.flatMap Call.levels) := by
  induction calls generalizing a with
  | nil => rfl
  | cons call rest ih =>
    rw [List.flatMap_cons, Entries.update_append, ← levels_act]
    exact ih (a.act call)

/-- The last level that some calls gave to a logger; a level of zero is none. -/
def lastLevel? (calls : List Call) (name : String) : Option Nat :=
  (Entries.get? (calls.flatMap Call.levels).reverse name).filter (· ≠ 0)

theorem own?_run {a : LogAdapter} (h : a.IsFresh) (calls : List Call) {name : String}
    (hname : LogTree.isSdk name) : (a.run calls).tree.own? name = lastLevel? calls name := by
  rw [LogTree.own?, levels_run, Entries.get?_update_eq_or, h.levels name hname, Option.or_none]
  rfl

/-! ## The last configuration -/

/-- Two adapters are set up alike, if not in their levels: each has one handler, and both handlers
write lines in the same format. -/
structure IsAlike (a b : LogAdapter) : Prop where
  rootLevel : a.rootLevel = b.rootLevel
  moduleLevels : a.moduleLevels = b.moduleLevels
  format : a.format = b.format
  propagates : a.tree.propagates = b.tree.propagates
  handlers : ∃ h k, a.own = some h ∧ a.tree.handlers = [h] ∧ b.own = some k ∧
    b.tree.handlers = [k] ∧ h.format = k.format

/-- With the same level, a logger writes the same lines. -/
theorem IsAlike.write_eq {a b : LogAdapter} (h : a.IsAlike b) {name : String}
    (hlevel : a.tree.effective name = b.tree.effective name) (method : String)
    (event : Option Value) (fields : Bundle) :
    a.write name method event fields = b.write name method event fields := by
  obtain ⟨i, j, hown, hhandlers, hown', hhandlers', hformat⟩ := h.handlers
  unfold write
  rw [hlevel, hown, hown', hhandlers, hhandlers']
  simp only [List.filterMap_cons, hformat]
  rfl

theorem isAlike_planned {a b : LogAdapter} (ha : a.HasOwnOnly) (hb : b.HasOwnOnly) (p : LogPlan) :
    (a.planned p).IsAlike (b.planned p) where
  rootLevel := rfl
  moduleLevels := rfl
  format := rfl
  propagates := rfl
  handlers :=
    ⟨_, _, rfl, by rw [planned, ha.others]; rfl, rfl, by rw [planned, hb.others]; rfl, rfl⟩

section Levels

variable {p : LogPlan} {name : String}

theorem own?_planned_of_mem (h : name ∈ Entries.keys (LogPlan.numbers p.levels))
    (a b : LogAdapter) : (a.planned p).tree.own? name = (b.planned p).tree.own? name := by
  have hset : name ∈ Entries.keys (LogPlan.numbers p.levels).reverse :=
    (Entries.keys_perm (List.reverse_perm _)).mem_iff.2 h
  obtain ⟨m, hm⟩ := Option.ne_none_iff_exists'.1 fun hnone =>
    Entries.get?_eq_none_iff.1 hnone hset
  unfold LogTree.own?
  rw [planned, planned, Entries.get?_update_eq_or, Entries.get?_update_eq_or, hm]
  rfl

theorem own?_planned_of_not_mem (h : name ∉ Entries.keys (LogPlan.numbers p.levels))
    (a : LogAdapter) : (a.planned p).tree.own? name = a.tree.own? name := by
  have hne : ∀ e ∈ LogPlan.numbers p.levels, name ≠ e.1 := fun e he heq =>
    h (heq ▸ List.mem_map_of_mem he)
  unfold LogTree.own?
  rw [planned, Entries.get?_update_of_forall_ne hne]

/-- Where no level is refused, the loggers of the library that get one are the topmost of them and
those that the configuration names. -/
theorem mem_keys_levels_iff {ns : List (String × Nat)}
    (hns : p.levels.mapM LogPlan.number = .ok ns) (hname : LogTree.isSdk name) :
    name ∈ Entries.keys (LogPlan.numbers p.levels) ↔
      name = LogTree.sdk ∨ name ∈ Entries.keys p.shown := by
  have hne : name ≠ "" := LogTree.key_of_isSdk hname ▸ LogTree.key_ne_of_isSdk hname
  have hunder (k : Key) : (∃ other, LogTree.loggerName? k = some other ∧ LogTree.key other = name) ↔
      k = .text name := by
    simp only [LogTree.key_eq_iff_of_isSdk hname, exists_eq_right]
    refine ⟨fun h => LogTree.text_of_loggerName? h hne, ?_⟩
    rintro rfl
    rfl
  rw [LogPlan.mem_keys_numbers_iff hns, LogPlan.levels]
  simp only [List.mem_cons, exists_eq_or_imp, hunder, LogPlan.keys_shown]
  refine or_congr (by simp [eq_comm]) ⟨?_, fun h => ?_⟩
  · rintro ⟨e, he, hkey⟩
    exact List.mem_map.2 ⟨e, he, by rw [hkey]; rfl⟩
  · obtain ⟨e, he, rfl⟩ := List.mem_map.1 h
    obtain ⟨other, hother⟩ := LogPlan.exists_loggerName?_of_mapM hns (List.mem_cons_of_mem _ he)
    exact ⟨e, he, LogTree.text_of_isSdk_display hother hname⟩

/-- A plan gives the library the levels that it gives over fresh loggers, if what the other loggers
kept and what is above the library make no difference. -/
theorem effective_planned_iff {ns : List (String × Nat)}
    (hns : p.levels.mapM LogPlan.number = .ok ns) {a : LogAdapter} (hfresh : a.IsFresh)
    (b : LogAdapter) :
    (∀ n, LogTree.isSdk n → (b.planned p).tree.effective n = (a.planned p).tree.effective n) ↔
      (∀ n m, LogTree.isSdk n → n ≠ LogTree.sdk → n ∉ Entries.keys p.shown →
        b.tree.own? n = some m → (a.planned p).tree.effective n = m) ∧
      ((a.planned p).tree.own? LogTree.sdk = none →
        (b.planned p).tree.effective "" = (a.planned p).tree.effective "") := by
  have htop : (b.planned p).tree.own? LogTree.sdk = (a.planned p).tree.own? LogTree.sdk :=
    own?_planned_of_mem ((mem_keys_levels_iff hns LogTree.isSdk_sdk).2 (.inl rfl)) b a
  have hunset : ∀ n, LogTree.isSdk n → (n ∉ Entries.keys (LogPlan.numbers p.levels) ↔
      n ≠ LogTree.sdk ∧ n ∉ Entries.keys p.shown) := fun n hn => by
    rw [mem_keys_levels_iff hns hn, not_or]
  constructor
  · intro hsame
    refine ⟨fun n m hn hne hmodules hm => ?_,
      (LogTree.effective_sdk_eq_iff htop).1 (hsame _ LogTree.isSdk_sdk)⟩
    have hnot := (hunset n hn).2 ⟨hne, hmodules⟩
    rw [← hsame n hn]
    exact LogTree.effective_of_own? hn ((own?_planned_of_not_mem hnot b).trans hm)
  · rintro ⟨hkept, habove⟩ n hn
    -- A logger that gets a level has it in both; any other one has what it kept, or none.
    refine LogTree.effective_eq_of_own? ((LogTree.effective_sdk_eq_iff htop).2 habove) ?_ ?_ hn
    · intro k m hk hm
      by_cases hset : k ∈ Entries.keys (LogPlan.numbers p.levels)
      · exact LogTree.effective_of_own? hk ((own?_planned_of_mem hset a b).trans hm)
      · obtain ⟨hne, hmodules⟩ := (hunset k hk).1 hset
        exact hkept k m hk hne hmodules ((own?_planned_of_not_mem hset b).symm.trans hm)
    · intro k hk _ hnone
      by_cases hset : k ∈ Entries.keys (LogPlan.numbers p.levels)
      · rw [own?_planned_of_mem hset a b, hnone]
      · rw [own?_planned_of_not_mem hset, LogTree.own?, hfresh.levels k hk]
        rfl

end Levels

/-- After any calls, the last configuration sets the adapter up as if it were the only one, with
one handler. The levels in the library are then as if it were the only one just where no logger
that it leaves out keeps another level from an earlier configuration, and where, if it takes the
level of the logger of the library away, the topmost level is as it would be. -/
theorem configure_run_iff {a : LogAdapter} (hfresh : a.IsFresh) (calls : List Call) {c : Config}
    {env : Config.Environment} (hok : (a.configure c env).2 = .ok ()) :
    let last := ((a.run calls).configure c env).1
    let alone := (a.configure c env).1
    ((a.run calls).configure c env).2 = .ok () ∧ last.IsAlike alone ∧
    ((∀ n, LogTree.isSdk n → last.tree.effective n = alone.tree.effective n) ↔
      (∀ n m, LogTree.isSdk n → n ≠ LogTree.sdk → n ∉ Entries.keys alone.moduleLevels →
        lastLevel? calls n = some m → alone.tree.effective n = m) ∧
      (alone.tree.own? LogTree.sdk = none →
        last.tree.effective "" = alone.tree.effective "")) := by
  obtain ⟨p, ns, hread, hns⟩ := exists_read_of_configure hok
  rw [configure_fst_of_read hread, configure_fst_of_read hread]
  refine ⟨(configure_snd _ a c env).trans hok,
    isAlike_planned (hfresh.hasOwnOnly.run calls) hfresh.hasOwnOnly p,
    (effective_planned_iff hns hfresh (a.run calls)).trans (and_congr_left' ?_)⟩
  refine forall_congr' fun n => forall_congr' fun m => forall_congr' fun hn => ?_
  rw [own?_run hfresh calls hn]
  rfl

/-- A configuration of the levels of the library and of its client. -/
def clientConfig (root client : String) : Config :=
  .ofData [("lingx", .dict [("logging", .dict [("level",
    .dict [("root", .text root), ("lingx.client", .text client)])])])]

/-- A configuration that names the same loggers as the ones before decides on all levels. -/
theorem configure_run_iff_client :
    let calls : List Call := [.configure (clientConfig "ERROR" "DEBUG") [], .reset]
    let last := ((create.run calls).configure (clientConfig "INFO" "WARNING") []).1
    let alone := (create.configure (clientConfig "INFO" "WARNING") []).1
    (create.configure (clientConfig "INFO" "WARNING") []).2 = .ok () ∧ last.IsAlike alone ∧
      ∀ n, LogTree.isSdk n → last.tree.effective n = alone.tree.effective n := by
  intro calls last alone
  have hok : (create.configure (clientConfig "INFO" "WARNING") []).2 = .ok () := rfl
  obtain ⟨-, halike, hlevels⟩ := configure_run_iff isFresh_create calls hok
  have hset : calls.flatMap Call.levels = [("lingx", 40), ("lingx.client", 10)] := rfl
  have halone : alone = create.planned ⟨"INFO", [("lingx.client", "WARNING")], "console"⟩ :=
    configure_fst_of_read rfl create
  have hnamed : Entries.keys alone.moduleLevels = ["lingx.client"] := by
    rw [halone]
    rfl
  have hown : alone.tree.own? LogTree.sdk = some 20 := by
    rw [halone]
    rfl
  refine ⟨hok, halike, hlevels.2 ⟨?_, fun hnone => ?_⟩⟩
  · intro n m _ hsdk hmodules hlast
    obtain ⟨hget, -⟩ := Option.filter_eq_some_iff.1 hlast
    have hmem := Entries.mem_of_get? hget
    rw [hset] at hmem
    rw [hnamed, List.mem_singleton] at hmodules
    rcases List.mem_pair.1 (List.mem_reverse.1 hmem) with heq | heq
    · exact absurd (Prod.ext_iff.1 heq).1 hsdk
    · exact absurd (Prod.ext_iff.1 heq).1 hmodules
  · rw [hown] at hnone
    cases hnone

/-- A level that the last configuration does not name stays as an earlier one left it. -/
theorem level_stays_client :
    let last := (create.run [.configure (clientConfig "INFO" "DEBUG") []]).configure (.ofData []) []
    let alone := create.configure (.ofData []) []
    LogTree.isSdk "lingx.client" ∧ last.2 = .ok () ∧ alone.2 = .ok () ∧
      last.1.tree.effective "lingx.client" = 10 ∧ alone.1.tree.effective "lingx.client" = 20 :=
  ⟨rfl, rfl, rfl, rfl, rfl⟩

end LogAdapter
end Polyglot
