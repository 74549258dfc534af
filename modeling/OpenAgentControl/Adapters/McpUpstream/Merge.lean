import OpenAgentControl.Foundations.FirstWins
import OpenAgentControl.Domain.Ports

/-! # Merging the listings of several upstreams

The body of `RoutingMCPUpstream._refresh` once every upstream has answered: the merged listing, the
route table that comes with it, and the failures.
- `advertised` says what the merge is for: the first upstream in configured order that lists a tool
  of a name, and its own first object of that name.
- `MergedFrom` is what a merge promises of its two results; `refreshResult_ok` proves it. -/

namespace OpenAgentControl
set_option autoImplicit false
set_option maxHeartbeats 250000

open Foundations

namespace RoutingMCPUpstream

/-- What a fan-out gets back from one upstream. -/
abbrev Answer := Except Exc Dict

/-- `_tools_of`. -/
def toolsOf (response : Dict) : List Dict :=
  match response.get? "result" with
  | some (.obj result) =>
    match Dict.get? result "tools" with
    | some (.arr tools) =>
      tools.filterMap fun tool =>
        match tool with
        | .obj fields => some fields
        | _ => none
    | _ => []
  | _ => []

/-- `tool.get("name")` where it is a string. -/
def toolName (tool : Dict) : Option String :=
  match tool.get? "name" with
  | some (.str name) => some name
  | _ => none

/-- The tools an answer lists; an exception lists none. -/
def Answer.tools : Answer → List Dict
  | .ok response => toolsOf response
  | .error _ => []

def Answer.failed : Answer → Bool
  | .ok _ => false
  | .error _ => true

/-! ## The loop -/

structure Merge where
  merged : List Dict := []
  routes : List (String × String) := []
  failures : List String := []

namespace Merge

def addTool (upstream : String) (m : Merge) (tool : Dict) : Merge :=
  match toolName tool with
  | some name =>
    if (m.routes.lookup name).isSome then m
    else { m with merged := m.merged ++ [tool], routes := m.routes ++ [(name, upstream)] }
  | none => m

/-- One turn of the loop; `text` is `str` of an exception. -/
def addResult (text : Exc → String) (m : Merge) (result : String × Answer) : Merge :=
  match result.2 with
  | .error e => { m with failures := m.failures ++ [result.1 ++ ": " ++ text e] }
  | .ok response => (toolsOf response).foldl (addTool result.1) m

def ofResults (text : Exc → String) (results : List (String × Answer)) : Merge :=
  results.foldl (addResult text) {}

end Merge

/-! ## First advertisers -/

/-- The upstream a tool came from, with the tool. -/
abbrev Offer := String × Dict

def Offer.name (o : Offer) : Option String := toolName o.2

/-- Every tool listed, in configured order and then in the order of its upstream. -/
def offers (results : List (String × Answer)) : List Offer :=
  results.flatMap fun result => (Answer.tools result.2).map fun tool => (result.1, tool)

/-- The first upstream in configured order that lists a tool of the name, and its own first tool of
that name. -/
def advertised (results : List (String × Answer)) (name : String) : Option Offer :=
  results.findSome? fun result =>
    ((Answer.tools result.2).find? (hasKey toolName name)).map fun tool => (result.1, tool)

theorem find_offers (results : List (String × Answer)) (name : String) :
    (offers results).find? (hasKey Offer.name name) = advertised results name := by
  rw [offers, List.find?_flatMap, advertised]
  congr 1
  funext result
  rw [List.find?_map]
  rfl

theorem advertised_eq_some {results : List (String × Answer)} {name upstream : String}
    {tool : Dict} :
    advertised results name = some (upstream, tool) ↔
      ∃ before answer after, results = before ++ (upstream, answer) :: after ∧
        (Answer.tools answer).find? (hasKey toolName name) = some tool ∧
        ∀ result ∈ before, (Answer.tools result.2).find? (hasKey toolName name) = none := by
  rw [advertised, List.findSome?_eq_some_iff]
  constructor
  · rintro ⟨before, ⟨up, answer⟩, after, rfl, hfound, hnone⟩
    obtain ⟨tool', htool, heq⟩ := Option.map_eq_some_iff.mp hfound
    cases heq
    exact ⟨before, answer, after, rfl, htool, fun r hr => Option.map_eq_none_iff.mp (hnone r hr)⟩
  · rintro ⟨before, answer, after, rfl, htool, hnone⟩
    refine ⟨before, (upstream, answer), after, rfl, ?_, ?_⟩
    · simp only [htool, Option.map_some]
    · intro r hr
      exact Option.map_eq_none_iff.mpr (hnone r hr)

/-! ## What the loop computes -/

/-- The offers that win: the first of each name. -/
def winners (results : List (String × Answer)) : List Offer :=
  keepFirst Offer.name [] (offers results)

def routesOf (kept : List Offer) : List (String × String) :=
  kept.filterMap fun o => o.name.map fun name => (name, o.1)

theorem keys_routesOf (kept : List Offer) :
    (routesOf kept).map Prod.fst = kept.filterMap Offer.name := by
  rw [routesOf, List.map_filterMap]
  congr 1
  funext o
  cases o.name <;> rfl

theorem lookup_routesOf (kept : List Offer) (name : String) :
    (routesOf kept).lookup name = (kept.find? (hasKey Offer.name name)).map Prod.fst := by
  induction kept with
  | nil => rfl
  | cons o rest ih =>
    cases hname : o.name with
    | none =>
      have hother : ¬ hasKey Offer.name name o = true := hasKey_of_ne (by rw [hname]; nofun)
      rw [List.find?_cons_of_neg hother, ← ih, routesOf, List.filterMap_cons_none (by rw [hname]; rfl)]
      rfl
    | some n =>
      rw [routesOf, List.filterMap_cons_some (by rw [hname]; rfl), lookup_cons_if]
      by_cases hn : name = n
      · subst hn
        rw [List.find?_cons_of_pos (hasKey_of_eq hname), if_pos rfl]
        rfl
      · have hother : ¬ hasKey Offer.name name o = true :=
          hasKey_of_ne fun h => hn (Option.some.inj (h.symm.trans hname))
        rw [List.find?_cons_of_neg hother, ← ih, if_neg hn]
        rfl

theorem isSome_lookup (routes : List (String × String)) (name : String) :
    (routes.lookup name).isSome = true ↔ name ∈ routes.map Prod.fst := by
  induction routes with
  | nil => simp
  | cons r rest ih =>
    obtain ⟨n, u⟩ := r
    rw [lookup_cons_if, List.map_cons, List.mem_cons]
    by_cases hn : name = n
    · simp [hn]
    · rw [if_neg hn]
      simp only [hn, false_or]
      exact ih

/-- The offers among `os` whose name has no route yet, the first of each name. -/
def Merge.fresh (m : Merge) (os : List Offer) : List Offer :=
  keepFirst Offer.name (m.routes.map Prod.fst) os

/-- The merge with offers and their routes appended. -/
def Merge.take (m : Merge) (kept : List Offer) : Merge :=
  { m with merged := m.merged ++ kept.map Prod.snd, routes := m.routes ++ routesOf kept }

theorem Merge.take_take (m : Merge) (kept kept' : List Offer) :
    (m.take kept).take kept' = m.take (kept ++ kept') := by
  simp [Merge.take, routesOf]

theorem Merge.fresh_append (m : Merge) (os os' : List Offer) :
    m.fresh (os ++ os') = m.fresh os ++ (m.take (m.fresh os)).fresh os' := by
  rw [Merge.fresh, keepFirst.append, Merge.fresh, Merge.fresh, Merge.take, List.map_append,
    keys_routesOf]

/-- The inner loop takes the tools whose name is new. -/
theorem foldl_addTool (upstream : String) (tools : List Dict) (m : Merge) :
    tools.foldl (Merge.addTool upstream) m =
      m.take (m.fresh (tools.map fun tool => (upstream, tool))) := by
  induction tools generalizing m with
  | nil => simp [Merge.fresh, Merge.take, keepFirst, routesOf]
  | cons tool rest ih =>
    rw [List.foldl_cons, ih, List.map_cons, ← List.singleton_append, Merge.fresh_append,
      ← Merge.take_take]
    have hturn : m.addTool upstream tool = m.take (m.fresh [(upstream, tool)]) := by
      rw [Merge.fresh, Merge.addTool]
      cases hname : toolName tool with
      | none =>
        have hkey : Offer.name (upstream, tool) = none := hname
        rw [keepFirst.cons_of_none hkey]
        simp [Merge.take, keepFirst, routesOf]
      | some name =>
        have hkey : Offer.name (upstream, tool) = some name := hname
        by_cases hseen : name ∈ m.routes.map Prod.fst
        · rw [keepFirst.cons_of_seen hkey hseen]
          simp only [if_pos ((isSome_lookup m.routes name).mpr hseen)]
          simp [Merge.take, keepFirst, routesOf]
        · have hnot : ¬ (m.routes.lookup name).isSome = true :=
            fun h => hseen ((isSome_lookup m.routes name).mp h)
          rw [keepFirst.cons_of_new hkey hseen]
          simp only [if_neg hnot]
          simp [Merge.take, keepFirst, routesOf, hkey]
    rw [hturn]

/-- The outer loop takes, over the results that are left, the offers whose name is new. -/
theorem foldl_addResult (text : Exc → String) (results : List (String × Answer)) (m : Merge) :
    (results.foldl (Merge.addResult text) m).merged = (m.take (m.fresh (offers results))).merged ∧
      (results.foldl (Merge.addResult text) m).routes =
        (m.take (m.fresh (offers results))).routes := by
  induction results generalizing m with
  | nil => simp [offers, Merge.fresh, Merge.take, keepFirst, routesOf]
  | cons result rest ih =>
    obtain ⟨upstream, answer⟩ := result
    cases answer with
    | error e => exact ih _
    | ok response =>
      let tools : List Offer := (toolsOf response).map fun tool => (upstream, tool)
      have hoffers : offers ((upstream, .ok response) :: rest) = tools ++ offers rest :=
        List.flatMap_cons
      have hturn : m.addResult text (upstream, .ok response) = m.take (m.fresh tools) :=
        foldl_addTool upstream (toolsOf response) m
      rw [List.foldl_cons, hturn, hoffers, Merge.fresh_append, ← Merge.take_take]
      exact ih _

theorem ofResults_merged (text : Exc → String) (results : List (String × Answer)) :
    (Merge.ofResults text results).merged = (winners results).map Prod.snd :=
  (foldl_addResult text results {}).1

theorem ofResults_routes (text : Exc → String) (results : List (String × Answer)) :
    (Merge.ofResults text results).routes = routesOf (winners results) :=
  (foldl_addResult text results {}).2

/-- How a failed result is reported. -/
def failureText (text : Exc → String) (result : String × Answer) : Option String :=
  match result.2 with
  | .error e => some (result.1 ++ ": " ++ text e)
  | .ok _ => none

theorem foldl_addTool_failures (upstream : String) (tools : List Dict) (m : Merge) :
    (tools.foldl (Merge.addTool upstream) m).failures = m.failures := by
  rw [foldl_addTool, Merge.take]

theorem ofResults_failures (text : Exc → String) (results : List (String × Answer)) :
    (Merge.ofResults text results).failures = results.filterMap (failureText text) := by
  have hfold : ∀ m : Merge, (results.foldl (Merge.addResult text) m).failures =
      m.failures ++ results.filterMap (failureText text) := by
    induction results with
    | nil => simp
    | cons result rest ih =>
      intro m
      obtain ⟨upstream, answer⟩ := result
      cases answer with
      | error e =>
        have hreport : failureText text (upstream, .error e) = some (upstream ++ ": " ++ text e) :=
          rfl
        rw [List.foldl_cons, ih, List.filterMap_cons_some hreport, Merge.addResult,
          List.append_assoc, List.singleton_append]
      | ok response =>
        have hreport : failureText text (upstream, .ok response) = none := rfl
        rw [List.foldl_cons, ih, List.filterMap_cons_none hreport, Merge.addResult,
          foldl_addTool_failures]
  exact hfold {}

theorem isSome_failureText (text : Exc → String) (result : String × Answer) :
    (failureText text result).isSome = Answer.failed result.2 := by
  obtain ⟨upstream, answer⟩ := result
  cases answer with
  | error e => rfl
  | ok response => rfl

theorem failures_length_eq_iff (text : Exc → String) (results : List (String × Answer)) :
    (Merge.ofResults text results).failures.length = results.length ↔
      ∀ result ∈ results, Answer.failed result.2 = true := by
  rw [ofResults_failures, List.length_filterMap_eq_countP, List.countP_eq_length]
  simp only [isSome_failureText]

/-! ## The table -/

/-- What a merge promises: names listed once, routes for exactly these names, and for each the first
advertiser with its own first tool of that name. -/
structure MergedFrom (results : List (String × Answer)) (merged : List Dict)
    (routes : List (String × String)) : Prop where
  named : ∀ tool ∈ merged, (toolName tool).isSome = true
  distinct : (merged.filterMap toolName).Nodup
  domain : ∀ name, (routes.lookup name).isSome = true ↔ name ∈ merged.filterMap toolName
  routed : ∀ name, routes.lookup name = (advertised results name).map Prod.fst
  listed : ∀ name, merged.find? (hasKey toolName name) = (advertised results name).map Prod.snd

theorem mergedFrom_ofResults (text : Exc → String) (results : List (String × Answer)) :
    MergedFrom results (Merge.ofResults text results).merged
      (Merge.ofResults text results).routes := by
  have hfound : ∀ name, (winners results).find? (hasKey Offer.name name) = advertised results name :=
    fun name => (keepFirst.find_key List.not_mem_nil).trans (find_offers results name)
  have hnames : ((winners results).map Prod.snd).filterMap toolName =
      (winners results).filterMap Offer.name := by
    rw [List.filterMap_map]
    rfl
  rw [ofResults_merged, ofResults_routes]
  refine ⟨?_, ?_, ?_, ?_, ?_⟩
  · intro tool htool
    obtain ⟨o, ho, rfl⟩ := List.mem_map.mp htool
    have hname : (Offer.name o).isSome = true := keepFirst.isSome_key ho
    exact hname
  · rw [hnames]
    exact keepFirst.keys_nodup [] (offers results)
  · intro name
    rw [isSome_lookup, keys_routesOf, hnames]
  · intro name
    rw [lookup_routesOf, hfound]
  · intro name
    rw [List.find?_map, ← hfound]
    rfl

end RoutingMCPUpstream

end OpenAgentControl
