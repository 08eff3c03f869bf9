import Conclave.Proofs.Addresses
import Conclave.Proofs.Numerals
import Conclave.Proofs.Spellings

namespace Conclave

namespace Text

theorem trim_cut {sep : Char} (unblank : isBlank sep = false) (s : String) :
    (cut? sep (trim s)).map (Prod.map trim trim) = (cut? sep s).map (Prod.map trim trim) := by
  obtain ⟨front, back, hfront, hback, hs⟩ := around_trim s
  have outside {blanks : List Char} (hblanks : ∀ c ∈ blanks, isBlank c = true) : sep ∉ blanks :=
    fun h => absurd (hblanks sep h) (by simp [unblank])
  by_cases h : sep ∈ (trim s).toList
  -- The blanks that the first trimming takes stand at the outer ends of the two parts.
  · obtain ⟨left, right, hcore, hleft⟩ := List.eq_append_cons_of_mem h
    have split : s.toList = (front ++ left) ++ sep :: (right ++ back) := by
      rw [hs, hcore]
      simp
    have plain : sep ∉ front ++ left := List.not_mem_append (outside hfront) hleft
    have around : Around left (String.ofList (front ++ left)) := ⟨front, [], hfront, nofun, by simp⟩
    have around' : Around right (String.ofList (right ++ back)) := ⟨[], back, nofun, hback, by simp⟩
    rw [cut?_of_split hleft hcore, cut?_of_split plain split, Option.map_some, Option.map_some,
      Prod.map_apply, Prod.map_apply, trim_around around, trim_around around']
  · have plain : sep ∉ s.toList := by
      rw [hs]
      exact List.not_mem_append (List.not_mem_append (outside hfront) h) (outside hback)
    rw [cut?_of_plain h, cut?_of_plain plain]

end Text

def Registry.address? (r : Registry) (id : NodeId) : Option String := (r.get? id).map Node.address

namespace Startup

open Text

section Entries

variable {entry text url : String} {id : UInt64}

def Gives (entry : String) (id : UInt64) (url : String) : Prop :=
  ∃ left right, entry.toList = left ++ '=' :: right ∧ '=' ∉ left ∧
    Unsigned (trim (String.ofList left)).toList id.toNat ∧ 0 < id ∧
    trim (String.ofList right) = url ∧ isHttpUrl url = true

def ofParts? (parts : String × String) : Option (UInt64 × String) :=
  match readUInt64 parts.1 with
  | .error _ => none
  | .ok id => if 0 < id ∧ isHttpUrl parts.2 then some (id, parts.2) else none

theorem ofParts?_eq_some {parts : String × String} : ofParts? parts = some (id, url) ↔
    Unsigned parts.1.toList id.toNat ∧ 0 < id ∧ parts.2 = url ∧ isHttpUrl url = true := by
  rw [← readUInt64_eq_ok, ofParts?]
  cases readUInt64 parts.1 with
  | error f => simp
  | ok n =>
      simp only [Option.ite_none_right_eq_some, Option.some.injEq, Prod.mk.injEq, Except.ok.injEq]
      constructor
      · rintro ⟨⟨pos, hurl⟩, rfl, rfl⟩
        exact ⟨rfl, pos, rfl, hurl⟩
      · rintro ⟨rfl, pos, rfl, hurl⟩
        exact ⟨⟨pos, hurl⟩, rfl, rfl⟩

theorem endpointOf?_eq (entry : String) :
    endpointOf? entry = ((cut? '=' entry).map (Prod.map trim trim)).bind ofParts? := by
  rw [← trim_cut (by decide), endpointOf?]
  cases cut? '=' (trim entry) with
  | none => rfl
  | some parts =>
      obtain ⟨left, right⟩ := parts
      cases read : readUInt64 (trim left) with
      | error f => simp [ofParts?, read]
      | ok id => simp [ofParts?, read]

theorem endpointOf?_eq_some : endpointOf? entry = some (id, url) ↔ Gives entry id url := by
  rw [endpointOf?_eq]
  constructor
  · intro h
    by_cases sign : '=' ∈ entry.toList
    · obtain ⟨left, right, split, plain⟩ := List.eq_append_cons_of_mem sign
      rw [cut?_of_split plain split, Option.map_some, Option.bind_some, ofParts?_eq_some] at h
      obtain ⟨unsigned, pos, hright, hurl⟩ := h
      exact ⟨left, right, split, plain, unsigned, pos, hright, hurl⟩
    · rw [cut?_of_plain sign] at h
      cases h
  · rintro ⟨left, right, split, plain, unsigned, pos, hright, hurl⟩
    rw [cut?_of_split plain split, Option.map_some, Option.bind_some, ofParts?_eq_some]
    exact ⟨unsigned, pos, hright, hurl⟩

theorem endpointOf?_of_blank (blank : (trim entry).isEmpty = true) : endpointOf? entry = none := by
  have plain : '=' ∉ (trim entry).toList := by simp [String.isEmpty_iff.1 blank]
  rw [endpointOf?, cut?_of_plain plain]

theorem readEndpoints_eq (text : String) :
    readEndpoints text = (split ';' text).filterMap endpointOf? := by
  rw [readEndpoints, entries, List.filterMap_filter]
  refine List.filterMap_congr fun entry _ => ?_
  split
  · rfl
  · rename_i blank
    exact (endpointOf?_of_blank (by simpa using blank)).symm

theorem readEndpoints_append (text other : String) :
    readEndpoints (text ++ ";" ++ other) = readEndpoints text ++ readEndpoints other := by
  have sep : ";" = String.singleton ';' := by decide
  rw [readEndpoints_eq, readEndpoints_eq, readEndpoints_eq, sep, split_sep, List.filterMap_append]

theorem gives_of_mem (h : (id, url) ∈ readEndpoints text) :
    ∃ entry ∈ split ';' text, Gives entry id url := by
  rw [readEndpoints_eq] at h
  obtain ⟨entry, hentry, given⟩ := List.mem_filterMap.1 h
  exact ⟨entry, hentry, endpointOf?_eq_some.1 given⟩

end Entries

section Seeding

variable {entries : List (UInt64 × String)} {text : String} {e : UInt64 × String} {r : Registry}

structure Seedable (e : UInt64 × String) : Prop where
  numbered : e.1 ≠ 0
  url : isHttpUrl e.2 = true
  trimmed : trim e.2 = e.2

theorem seedable_of_mem (h : e ∈ readEndpoints text) : Seedable e := by
  obtain ⟨entry, -, left, right, -, -, -, pos, hright, hurl⟩ := gives_of_mem h
  have numbered : e.1 ≠ 0 := by
    intro h
    rw [h] at pos
    exact absurd pos (by decide)
  exact ⟨numbered, hurl, by rw [← hright, trim_trim]⟩

theorem Seedable.registers (seedable : Seedable e) (now : Timestamp) (r : Registry) :
    ∃ node r', Api.registerNode now e.1 e.2 r = .ok (node, r') ∧
      ∀ id, r'.address? id = if e.1 = id.number then some (dropSlashes e.2) else r.address? id := by
  have url : isHttpUrl (trim e.2) = true := seedable.trimmed.symm ▸ seedable.url
  obtain ⟨node, r', accepted⟩ := Api.registerNode_accepts seedable.numbered url now r
  refine ⟨node, r', accepted, fun id => ?_⟩
  obtain ⟨-, -, rfl, -⟩ := Api.registerNode_eq_ok.1 accepted
  have same : id = ⟨e.1⟩ ↔ e.1 = id.number := by
    constructor
    · rintro rfl
      rfl
    · exact fun h => congrArg NodeId.mk h.symm
  rw [Registry.address?, Registry.get?_register, seedable.trimmed]
  simp only [same]
  split
  · rfl
  · rfl

theorem seed_of_seedable (seedable : ∀ e ∈ entries, Seedable e) (now : Timestamp) (r : Registry) :
    ∃ r', seed now entries r = .ok r' ∧ ∀ id, r'.address? id =
      ((Keyed.lookup id.number entries.reverse).map dropSlashes).or (r.address? id) := by
  induction entries generalizing r with
  | nil => exact ⟨r, rfl, fun id => rfl⟩
  | cons e entries ih =>
      obtain ⟨he, hentries⟩ := List.forall_mem_cons.1 seedable
      obtain ⟨node, first, registered, hfirst⟩ := he.registers now r
      obtain ⟨r', seeded, hr'⟩ := ih hentries first
      refine ⟨r', by rw [seed, registered]; exact seeded, fun id => ?_⟩
      rw [hr', hfirst, List.reverse_cons, Keyed.lookup_append, Keyed.lookup]
      cases Keyed.lookup id.number entries.reverse with
      | some url => rfl
      | none =>
          split
          · rfl
          · rfl

end Seeding

section Launch

def Settles {α : Type} (good : α → Prop) : Except Error α → Prop
  | .ok a => good a
  | .error e => ∀ id f, e ≠ .seed id f

theorem Settles.bind {α β : Type} {p : α → Prop} {q : β → Prop} {x : Except Error α}
    {k : α → Except Error β} (first : Settles p x) (next : ∀ a, p a → Settles q (k a)) :
    Settles q (x >>= k) := by
  cases x with
  | ok a => exact next a first
  | error e => exact first

theorem settles_policyOr (text : Option String) (default : Policy) :
    Settles (fun _ => True) (policyOr text default) := by
  unfold policyOr
  split
  · trivial
  · split
    · trivial
    · exact nofun

theorem settles_secondsOr (text : Option String) (default : Duration) :
    Settles (fun _ => True) (secondsOr text default) := by
  unfold secondsOr
  split
  · trivial
  · split
    · trivial
    · exact nofun

theorem settles_numberOr {α : Type} (read : String → Except NumberFault α) (text : Option String)
    (default : String) : Settles (fun _ => True) (numberOr read text default) := by
  unfold numberOr
  split
  · trivial
  · exact nofun

theorem settles_readSettings (env : Environment) :
    Settles (fun s => s.endpoints = readEndpoints ((env.get? "NODE_ENDPOINTS").getD ""))
      (readSettings env) := by
  unfold readSettings
  split
  · refine (settles_policyOr _ _).bind fun policy _ => ?_
    refine (settles_secondsOr _ _).bind fun dispatch _ => ?_
    refine (settles_secondsOr _ _).bind fun result _ => ?_
    dsimp only
    split
    · rw [pure_bind]
      refine (settles_numberOr _ _ _).bind fun total _ => ?_
      refine (settles_numberOr _ _ _).bind fun threshold _ => ?_
      rfl
    · exact nofun
  · exact nofun

theorem settles_launch {now : Timestamp} {s : Settings} {r : Registry}
    (seeded : seed now s.endpoints .empty = .ok r) :
    Settles (fun ready => ready.app.coordinator.registry = r) (launch now s).2 := by
  unfold launch
  rw [seeded]
  dsimp only
  split
  · exact nofun
  · split
    · exact nofun
    · rfl

theorem settles_run {now : Timestamp} {env : Environment} {r : Registry}
    (seeded : seed now (readEndpoints ((env.get? "NODE_ENDPOINTS").getD "")) .empty = .ok r) :
    Settles (fun ready => ready.app.coordinator.registry = r) (run now env).2 := by
  have settings := settles_readSettings env
  unfold run
  dsimp only
  split
  · rename_i h
    rw [h] at settings
    exact settings
  · rename_i s h
    rw [h] at settings
    have endpoints : s.endpoints = _ := settings
    exact settles_launch (endpoints ▸ seeded)

theorem endpoints_seed_the_table (now : Timestamp) (text : String) :
    (∀ other, readEndpoints (text ++ ";" ++ other) = readEndpoints text ++ readEndpoints other) ∧
      readEndpoints text = (split ';' text).filterMap endpointOf? ∧
      (∀ entry id url, endpointOf? entry = some (id, url) ↔ Gives entry id url) ∧
      (∀ e ∈ readEndpoints text, ∀ later r, ∃ node r',
        Api.registerNode later e.1 e.2 r = .ok (node, r')) ∧
      (∃ r, seed now (readEndpoints text) .empty = .ok r ∧ ∀ id, r.address? id =
        (Keyed.lookup id.number (readEndpoints text).reverse).map dropSlashes) ∧
      ∀ env : Environment, (env.get? "NODE_ENDPOINTS").getD "" = text →
        (∀ id f, (run now env).2 ≠ .error (.seed id f)) ∧
        ∀ ready, (run now env).2 = .ok ready → ∀ id, ready.app.coordinator.registry.address? id =
          (Keyed.lookup id.number (readEndpoints text).reverse).map dropSlashes := by
  obtain ⟨r, seeded, hr⟩ := seed_of_seedable (fun e he => seedable_of_mem he) now .empty
  have stands : ∀ id, r.address? id =
      (Keyed.lookup id.number (readEndpoints text).reverse).map dropSlashes := by
    intro id
    rw [hr]
    exact Option.or_none
  refine ⟨readEndpoints_append text, readEndpoints_eq text, fun entry id url => endpointOf?_eq_some,
    fun e he later r => ?_, ⟨r, seeded, stands⟩, ?_⟩
  · obtain ⟨node, r', accepted, -⟩ := (seedable_of_mem he).registers later r
    exact ⟨node, r', accepted⟩
  · rintro env rfl
    have settled := settles_run seeded
    constructor
    · intro id f h
      rw [h] at settled
      exact settled id f rfl
    · intro ready h
      rw [h] at settled
      have same : ready.app.coordinator.registry = r := settled
      rw [same]
      exact stands

def movingText : String := "1=http://one/; 2 = https://two ;bogus;0=http://zero;3=ftp://three;+1=http://moved//"

def movingEnvironment : Environment :=
  [("NOTIFIER_URL", "http://notifier"), ("NODE_ENDPOINTS", movingText)]

theorem endpoints_seed_the_table_moving :
    readEndpoints movingText = [(1, "http://one/"), (2, "https://two"), (1, "http://moved//")] ∧
      (∃ node r', Api.registerNode ⟨1, 0⟩ 2 "https://two" .empty = .ok (node, r')) ∧
      ∃ ready, (run ⟨0, 0⟩ movingEnvironment).2 = .ok ready ∧
        ready.app.coordinator.registry.address? ⟨1⟩ = some "http://moved" ∧
        ready.app.coordinator.registry.address? ⟨2⟩ = some "https://two" ∧
        ready.app.coordinator.registry.address? ⟨3⟩ = none := by
  have kept : readEndpoints movingText =
      [(1, "http://one/"), (2, "https://two"), (1, "http://moved//")] := by decide +kernel
  obtain ⟨-, -, -, accepted, -, launched⟩ := endpoints_seed_the_table ⟨0, 0⟩ movingText
  have ends : (run ⟨0, 0⟩ movingEnvironment).2.isOk = true := by decide +kernel
  have stands := (launched movingEnvironment (by decide +kernel)).2
  rw [kept] at stands accepted
  refine ⟨kept, accepted (2, "https://two") (by decide) ⟨1, 0⟩ .empty, ?_⟩
  cases h : (run ⟨0, 0⟩ movingEnvironment).2 with
  | error e =>
      rw [h] at ends
      cases ends
  | ok ready =>
      have address := stands ready h
      exact ⟨ready, rfl, (address ⟨1⟩).trans (by decide +kernel), (address ⟨2⟩).trans (by decide +kernel),
        (address ⟨3⟩).trans (by decide +kernel)⟩

end Launch

end Startup

end Conclave
