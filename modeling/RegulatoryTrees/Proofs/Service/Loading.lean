import RegulatoryTrees.Proofs.Registry.Progress
import RegulatoryTrees.Proofs.Service.Coherence
import RegulatoryTrees.Proofs.Service.Consulting

/-!
# Which rules a service has in use

A request starts a load of the rules if it asks for a reload, or consults the rules when there are none (`Service.load?`). The rules
in use are always those of the last load, whether or not it came to its end: where it did not they are those of the files before the
one that ended it, and the requests that follow are answered from them (`registry_after_eq`). Only the request that started the load
breaks down.
-/

namespace RegulatoryTrees

namespace Registry

/-- A load comes to its end: it returns rules, or there is no folder to load them from. -/
def Loading.Completes (l : Loading) : Prop := (∃ rules, l.outcome = .ok rules) ∨ ∃ path, l.outcome = .error (.sourceNotFound path)

/-- An entry that ends a scan is there. -/
theorem fault_ne_sourceNotFound {folder : Folder} {e : Folder.Entry} {failure : Failure} (h : e.fault? folder = some failure)
    (path : String) : failure ≠ .sourceNotFound path := by
  cases e with
  | folder name =>
    cases h
    nofun
  | file f =>
    obtain ⟨cause, -, rfl⟩ := fault?_file.1 h
    nofun

/-- A load comes to its end if a source is named and, where that is a folder that is there, no entry of it ends the scan. -/
theorem completes_loadAll_iff (g : Registry) (source : Option RuleSource) :
    (g.loadAll source).Completes ↔
      source ≠ none ∧ ∀ folder, source = some (.folder folder) → ∀ e ∈ folder.ruleEntries, e.fault? folder = none := by
  rcases source with - | source
  · refine iff_of_false ?_ fun h => h.1 rfl
    rintro (⟨rules, h⟩ | ⟨path, h⟩) <;> cases h
  · cases source with
    | absent path => exact iff_of_true (Or.inr ⟨path, rfl⟩) ⟨nofun, nofun⟩
    | bundled => exact iff_of_true (Or.inl ⟨_, rfl⟩) ⟨nofun, nofun⟩
    | folder folder =>
      have hreturns : (g.loadAll (some (.folder folder))).Completes ↔
          ∃ rules, (g.loadAll (some (.folder folder))).outcome = .ok rules := by
        refine ⟨?_, Or.inl⟩
        rintro (h | ⟨path, h⟩)
        · exact h
        · rw [loadAll_folder_outcome] at h
          split at h
          · next failure hfault =>
            obtain ⟨e, -, he⟩ := List.exists_of_findSome?_eq_some hfault
            exact absurd (Except.error.inj h) (fault_ne_sourceNotFound he path)
          · exact nomatch h
      rw [hreturns, exists_loadAll_folder_iff]
      constructor
      · intro h
        refine ⟨nofun, ?_⟩
        rintro _ ⟨⟩
        exact h
      · intro h
        exact h.2 folder rfl

end Registry

namespace Service

open Registry (Loading)

/-! ## Requests -/

/-- The load that a request starts at an endpoint: a reload, or the first one if it consults the rules. -/
def loadAt (s : Service) (r : Request) (e : Endpoint) : Option Loading :=
  if e = .reload || r.consults e && s.registry.isNone then some (Registry.loadAll {} s.source) else none

/-- The load that a request starts. One that comes to no endpoint or only asks beforehand starts none. -/
def load? (s : Service) (r : Request) : Option Loading :=
  match s.origins.preflight? r, Endpoint.direction r.method r.target.path with
  | none, .endpoint e => s.loadAt r e
  | _, _ => none

/-- A load that does not come to its end fails. -/
theorem outcome_load_of_not_completes (s : Service) (hs : s.registry = none) (h : ¬(Registry.loadAll {} s.source).Completes) :
    ∃ failure, s.load.outcome = .error failure := by
  rw [load]
  simp only [hs]
  split
  · next rules houtcome => exact absurd (Or.inl ⟨rules, houtcome⟩) h
  · next path houtcome => exact absurd (Or.inr ⟨path, houtcome⟩) h
  · next failure _ _ => exact ⟨failure, rfl⟩

/-- What an answer does to the rules in use: if a load is started they are those of the load, and the handling breaks down unless
that comes to its end. -/
theorem answer_loadAt (s : Service) (r : Request) (e : Endpoint) :
    (Handling.answer r e s).service.source = s.source ∧
      (Handling.answer r e s).service.registry = ((s.loadAt r e).map Loading.registry).or s.registry ∧
        ∀ l, s.loadAt r e = some l → ¬l.Completes → (Handling.answer r e s).result = .error .breakdown := by
  by_cases he : e = .reload
  · subst he
    obtain ⟨hsource, hregistry, hbreakdown⟩ := Handling.reload_eq s
    have hload : s.loadAt r .reload = some (Registry.loadAll {} s.source) := rfl
    rw [hload]
    refine ⟨hsource, hregistry, ?_⟩
    rintro l ⟨⟩ hfails
    obtain ⟨failure, hfailure⟩ := outcome_load_of_not_completes { s with registry := none } rfl hfails
    exact hbreakdown failure hfailure
  · have hconsults := Handling.consults_answer he r
    refine ⟨hconsults.source s, ?_⟩
    rw [hconsults.registry, loadAt]
    cases hflag : r.consults e with
    | false => simp [he]
    | true =>
      cases hs : s.registry with
      | some g => simp [he, inUse_of_registry hs]
      | none =>
        have hinUse : s.inUse = (Registry.loadAll {} s.source).registry := by rw [inUse, hs, Option.getD_none]
        refine ⟨by simp [hinUse], ?_⟩
        intro l hl hfails
        have hload : Registry.loadAll {} s.source = l := by simpa [he] using hl
        rw [← hload] at hfails
        obtain ⟨failure, hfailure⟩ := outcome_load_of_not_completes s hs hfails
        exact hconsults.breakdown hflag s failure hfailure

/-- A response to a request whose handling broke down is sent as one. -/
theorem status_sent_breakdown (s : Service) (r : Request) : (sent r (s.origins.share r .breakdown)).status = 500 := by
  have hshared : s.origins.share r .breakdown = .breakdown := by
    unfold Origins.share
    split <;> rfl
  rw [hshared, sent]
  split <;> rfl

/-- What a request does to the rules in use: if it starts a load they are those of the load, and the response tells of a breakdown
unless that comes to its end. -/
theorem respond_load (s : Service) (r : Request) :
    (s.respond r).service.source = s.source ∧
      (s.respond r).service.registry = ((s.load? r).map Loading.registry).or s.registry ∧
        ∀ l, s.load? r = some l → ¬l.Completes → (s.respond r).response.status = 500 := by
  unfold respond load?
  cases hpreflight : s.origins.preflight? r with
  | some response => exact ⟨rfl, rfl, nofun⟩
  | none =>
    dsimp only
    unfold direct
    cases hdirection : Endpoint.direction r.method r.target.path with
    | nowhere | redirected | wrongMethod => exact ⟨rfl, rfl, nofun⟩
    | endpoint e =>
      obtain ⟨hsource, hregistry, hbreakdown⟩ := answer_loadAt s r e
      refine ⟨hsource, hregistry, ?_⟩
      intro l hl hfails
      dsimp only
      rw [hbreakdown l hl hfails]
      exact status_sent_breakdown s r

/-! ## Histories -/

/-- The load that an event starts. -/
def Event.load? (s : Service) : Event → Option Loading
  | .request r => s.load? r
  | .files _ => none

/-- The loads that some events start, the first one first. -/
def loads (s : Service) : List Event → List Loading
  | [] => []
  | event :: rest => (event.load? s).toList ++ loads (event.apply s) rest

/-- After an event the rules in use are those of the load that it started, or the same as before. -/
theorem registry_apply (s : Service) (event : Event) :
    (event.apply s).registry = ((event.load? s).map Loading.registry).or s.registry := by
  cases event with
  | request r => exact (respond_load s r).2.1
  | files folder => rfl

/-- A load starts from the source of the service at that time. -/
theorem eq_loadAll_of_load? {s : Service} {event : Event} {l : Loading} (h : event.load? s = some l) :
    l = Registry.loadAll {} s.source := by
  cases event with
  | files folder => exact nomatch h
  | request r =>
    change s.load? r = some l at h
    unfold load? at h
    split at h
    · unfold loadAt at h
      split at h
      · exact (Option.some.inj h).symm
      · exact nomatch h
    · exact nomatch h

/-- The loads of some events and further ones are those of the former and then those of the latter, from where they leave the
service. -/
theorem loads_append (s : Service) (events further : List Event) :
    loads s (events ++ further) = loads s events ++ loads (s.after events) further := by
  induction events generalizing s with
  | nil => rfl
  | cons event rest ih =>
    rw [List.cons_append, loads, loads, ih, List.append_assoc]
    rfl

/-- The rules in use are those of the last load, or those that were there before any. -/
theorem registry_after (s : Service) (events : List Event) :
    (s.after events).registry = ((loads s events).getLast?.map Loading.registry).or s.registry := by
  induction events generalizing s with
  | nil => rfl
  | cons event rest ih =>
    have hafter : s.after (event :: rest) = (event.apply s).after rest := rfl
    have hlast : ((event.load? s).toList ++ loads (event.apply s) rest).getLast? =
        (loads (event.apply s) rest).getLast?.or (event.load? s) := by
      rw [List.getLast?_append]
      cases event.load? s <;> rfl
    rw [hafter, ih, registry_apply, loads, hlast, Option.map_or, Option.or_assoc]

/-- A load among those that some events start was started after some of them. -/
theorem exists_history_of_mem_loads {s : Service} {events : List Event} {l : Loading} (h : l ∈ loads s events) :
    ∃ history, history <+: events ∧ (loads s history).getLast? = some l ∧
      ∃ earlier, earlier <+: history ∧ l = Registry.loadAll {} (s.after earlier).source := by
  induction events using List.reverseRecOn with
  | nil => exact nomatch h
  | append_singleton events event ih =>
    have hloads : loads s (events ++ [event]) = loads s events ++ (event.load? (s.after events)).toList := by
      rw [loads_append, loads, loads, List.append_nil]
    rw [hloads, List.mem_append] at h
    rcases h with h | h
    · obtain ⟨history, hprefix, hlast⟩ := ih h
      exact ⟨history, hprefix.trans (List.prefix_append _ _), hlast⟩
    · rw [Option.mem_toList] at h
      refine ⟨events ++ [event], List.prefix_rfl, ?_, events, List.prefix_append _ _, eq_loadAll_of_load? h⟩
      rw [hloads, h, Option.toList_some, List.getLast?_concat]

/-- The rules in use are those of a load that came to its end, as long as there has been a load. -/
def ServesCompleted (s : Service) (history : List Event) : Prop := ∀ l, (loads s history).getLast? = some l → l.Completes

/-- The rules in use are at all times those of a load that came to its end exactly if every load comes to its end. -/
theorem servesCompleted_iff (s : Service) (events : List Event) :
    (∀ history, history <+: events → ServesCompleted s history) ↔ ∀ l ∈ loads s events, l.Completes := by
  constructor
  · intro h l hl
    obtain ⟨history, hprefix, hlast, -⟩ := exists_history_of_mem_loads hl
    exact h history hprefix l hlast
  · rintro h history ⟨further, rfl⟩ l hlast
    refine h l ?_
    rw [loads_append]
    exact List.mem_append_left _ (List.mem_of_getLast? hlast)

/-- Which rules a service has in use. After any requests and changes of the rule files they are those of the last load, which was
from the source of the service at that time. A request that starts a load that does not come to its end is told of a breakdown; the
requests after it are answered from what that load has left. So the rules in use are at all times those of a load that came to its
end exactly if every load does: if a source is named and, where it is a folder that is there, no entry of it ends the scan. What a
load from a folder leaves are the rules of the entries before the first one that ends the scan. -/
theorem registry_after_eq (s : Service) (events : List Event) :
    (s.after events).registry = ((loads s events).getLast?.map Loading.registry).or s.registry ∧
      (∀ l ∈ loads s events, ∃ history, history <+: events ∧ l = Registry.loadAll {} (s.after history).source) ∧
      (∀ r l, (s.after events).load? r = some l → ¬l.Completes → ((s.after events).respond r).response.status = 500) ∧
      ((∀ history, history <+: events → ServesCompleted s history) ↔ ∀ l ∈ loads s events, l.Completes) ∧
      (∀ source, (Registry.loadAll {} source).Completes ↔
        source ≠ none ∧ ∀ folder, source = some (.folder folder) → ∀ e ∈ folder.ruleEntries, e.fault? folder = none) ∧
      ∀ folder, (Registry.loadAll {} (some (.folder folder))).registry = ({} : Registry).addAll folder.rulesReached := by
  refine ⟨registry_after s events, ?_, ?_, servesCompleted_iff s events, Registry.completes_loadAll_iff {},
    Registry.loadAll_folder_registry {}⟩
  · intro l hl
    obtain ⟨history, hprefix, -, earlier, hearlier, hload⟩ := exists_history_of_mem_loads hl
    exact ⟨earlier, hearlier.trans hprefix, hload⟩
  · intro r l hl hfails
    exact (respond_load (s.after events) r).2.2 l hl hfails

end Service

/-! ## A folder that cannot be loaded to its end -/

namespace Shelf

/-- A folder with a rule and, after it, a day that there is not. -/
def halted : Folder := ⟨"rules", [first, misdated]⟩

/-- A service with the folder that has not loaded any rules. -/
def service : Service where
  settings := ⟨"Shelf", false, "INFO", true, "rules", ⟨Settings.wholeSize 200, Settings.wholeSize 80, Settings.wholeSize 40,
    Settings.wholeSize 60, Settings.wholeSize 20⟩⟩
  origins := .ofText none
  folder := halted

/-- A request for the list of the rules. -/
def listing : Request := ⟨"GET", ⟨"/rules", []⟩, [], ""⟩

theorem source_service : service.source = some (.folder halted) := by
  have hpath : service.settings.rulesPath = service.folder.path := rfl
  rw [Service.source, if_neg (by decide), if_neg (by decide +kernel), if_pos hpath]
  rfl

theorem ruleEntries_halted : halted.ruleEntries = [.file first, .file misdated] := by
  have hfirst : Folder.outermost? first = none := by decide +kernel
  have hmisdated : Folder.outermost? misdated = none := by decide +kernel
  have hflat : '/' ∉ first.name.toList ∧ '/' ∉ misdated.name.toList := by decide +kernel
  have hentries : halted.entries = [.file first, .file misdated] := by
    simp [Folder.entries, halted, hfirst, hmisdated, hflat]
  have hnames : ∀ e ∈ [Folder.Entry.file first, .file misdated], RuleFile.isRuleName e.name = true := by decide +kernel
  have hsorted : [Folder.Entry.file first, .file misdated].Pairwise fun a b => decide (a.name ≤ b.name) = true := by
    decide +kernel
  rw [Folder.ruleEntries, hentries, List.filter_eq_self.2 hnames, List.mergeSort_of_pairwise hsorted]

/-- The misdated file ends the scan. -/
theorem fault?_misdated : ∃ failure, (Folder.Entry.file misdated).fault? halted = some failure :=
  ⟨_, Registry.fault?_file.2 ⟨_, ⟨content_misdated, .inr ⟨_, rfl⟩⟩, rfl⟩⟩

/-- Loading the folder does not come to its end. -/
theorem not_completes_halted : ¬(Registry.loadAll {} (some (.folder halted))).Completes := by
  obtain ⟨failure, hfailure⟩ := fault?_misdated
  rw [Registry.completes_loadAll_iff]
  intro h
  have hmem : .file misdated ∈ halted.ruleEntries := by rw [ruleEntries_halted]; simp
  have hnone := h.2 halted rfl (.file misdated) hmem
  rw [hfailure] at hnone
  exact nomatch hnone

/-- The rule before the file that ends the scan has been reached. -/
theorem rulesReached_halted : halted.rulesReached = [ruleWith "a"] := by
  obtain ⟨failure, hfailure⟩ := fault?_misdated
  have hfirst : (Folder.Entry.file first).fault? halted = none := by rw [Folder.Entry.fault?, read_first]; rfl
  rw [Folder.rulesReached, Folder.reached, ruleEntries_halted, List.takeWhile_cons_of_pos (by simp [hfirst]),
    List.takeWhile_cons_of_neg (by simp [hfailure]), List.flatMap_singleton, Folder.Entry.rules, read_first]

theorem preflight?_listing (origins : Origins) : origins.preflight? listing = none := rfl

theorem direction_listing : Endpoint.direction listing.method listing.target.path = .endpoint .listRules := by decide +kernel

/-- The first request for the list starts the load. -/
theorem load?_listing : service.load? listing = some (Registry.loadAll {} (some (.folder halted))) := by
  unfold Service.load?
  rw [preflight?_listing, direction_listing, ← source_service]
  rfl

/-- A request for the list is answered with the rules in use. -/
theorem respond_listing {s : Service} {g : Registry} (h : s.registry = some g) :
    (s.respond listing).response =
      .ok (.record [("rules", .list (g.rules.map Handling.ruleSummary)), ("total", .int g.rules.length)]) := by
  have hregistry : (Handling.registry s).result = .ok g := by
    rw [Handling.registry, Service.outcome_load_of_registry h]
    rfl
  have hanswer : (Handling.answer listing .listRules s).result =
      .ok (.ok (.record [("rules", .list (g.rules.map Handling.ruleSummary)), ("total", .int g.rules.length)])) := by
    rw [Handling.answer, Handling.listRules, Handling.bind_of_ok hregistry]
    rfl
  unfold Service.respond
  rw [preflight?_listing]
  dsimp only
  unfold Service.direct
  rw [direction_listing]
  dsimp only
  rw [hanswer]
  rfl

end Shelf

namespace Service

/-- The load breaks the first request down and leaves the rule of the first file in use. -/
theorem registry_after_eq_halted :
    ¬(Registry.loadAll {} (some (.folder Shelf.halted))).Completes ∧
      (Shelf.service.respond Shelf.listing).response.status = 500 ∧
        (Shelf.service.after [.request Shelf.listing]).registry = some (({} : Registry).addAll [Shelf.ruleWith "a"]) := by
  obtain ⟨-, -, hbreakdown, -⟩ := registry_after_eq Shelf.service []
  obtain ⟨hregistry, -, -, -, -, hleft⟩ := registry_after_eq Shelf.service [.request Shelf.listing]
  have hloads : loads Shelf.service [.request Shelf.listing] = [Registry.loadAll {} (some (.folder Shelf.halted))] := by
    rw [loads, Event.load?, Shelf.load?_listing]
    rfl
  refine ⟨Shelf.not_completes_halted, hbreakdown Shelf.listing _ Shelf.load?_listing Shelf.not_completes_halted, ?_⟩
  rw [hregistry, hloads, List.getLast?_singleton, Option.map_some, hleft, Shelf.rulesReached_halted]
  rfl

/-- The load fails, and yet the next request for the list is answered with the rule of the first file. -/
theorem respond_after_failed_load :
    (∃ failure, (Registry.loadAll {} Shelf.service.source).outcome = .error failure) ∧
      (Shelf.service.respond Shelf.listing).response.status = 500 ∧
        ((Shelf.service.after [.request Shelf.listing]).respond Shelf.listing).response =
          .ok (.record [("rules", .list [Handling.ruleSummary (Shelf.ruleWith "a")]), ("total", .int 1)]) := by
  obtain ⟨-, hregistry, hbreakdown⟩ := respond_load Shelf.service Shelf.listing
  rw [Shelf.load?_listing, Option.map_some, Option.some_or, Registry.loadAll_folder_registry, Shelf.rulesReached_halted]
    at hregistry
  refine ⟨?_, hbreakdown _ Shelf.load?_listing Shelf.not_completes_halted, Shelf.respond_listing hregistry⟩
  cases houtcome : (Registry.loadAll {} Shelf.service.source).outcome with
  | error failure => exact ⟨failure, rfl⟩
  | ok rules => exact absurd (Or.inl ⟨rules, Shelf.source_service ▸ houtcome⟩) Shelf.not_completes_halted

end Service

end RegulatoryTrees
