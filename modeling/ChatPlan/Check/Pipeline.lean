import ChatPlan.Check.Nodes
import ChatPlan.Check.Views
import ChatPlan.Text.Property

/-
Pipelines of passes. Every pass runs and every issue is kept, in the order of the passes.
-/
namespace ChatPlan

/-- The passes that run over a design and over each of its views. -/
structure Pipeline where
  designPasses : List DesignPass
  viewPasses : List ViewPass

def allDesignPasses : List DesignPass := [
  ⟨"shape", Shape.issues⟩,
  ⟨"output_mapping", Outputs.issues⟩,
  ⟨"behavior_legality", Policies.issues⟩,
  ⟨"template_length", Length.designIssues⟩,
  ⟨"variable_names", Variables.issues⟩]

def allViewPasses : List ViewPass := [
  ⟨"filter_allow_list", Filters.issues⟩,
  ⟨"static_length", Length.viewIssues⟩,
  ⟨"capabilities", Fit.issues⟩]

namespace Pipeline

/-- All passes. -/
def standard : Pipeline := ⟨allDesignPasses, allViewPasses⟩

/-- What the design passes report. -/
def designIssues (p : Pipeline) (c : DesignContext) : List Issue :=
  p.designPasses.flatMap fun pass => pass.apply c

/-- What the view passes report on the view at this place. -/
def viewIssues (p : Pipeline) (c : ViewContext) (v : View) : List Issue :=
  p.viewPasses.flatMap fun pass => pass.apply c v

/-- What the view passes report on all views; view `i` stands at `routes[i]` of the base path. -/
def viewsIssues (p : Pipeline) (c : Capabilities) (o : Options) (views : List View) : List Issue :=
  (views.mapIdx fun i v => p.viewIssues ⟨c, o, o.basePath ++ s!".routes[{i}]"⟩ v).flatten

/-- The names of the passes on one line. -/
def display (p : Pipeline) : String :=
  "Pipeline \x7b design_passes: " ++ Text.quotedList (p.designPasses.map (·.name)) ++
    ", spec_passes: " ++ Text.quotedList (p.viewPasses.map (·.name)) ++ " \x7d"

end Pipeline

end ChatPlan
