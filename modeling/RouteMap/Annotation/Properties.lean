import RouteMap.Annotation.Basic
import RouteMap.Annotation.Registry
import RouteMap.Endpoint.Verb

/-!
# What annotations say about an endpoint

An annotation whose simple name is an HTTP verb names the verb; the last such
annotation counts. Of every other annotation the attributes that the registry
selects become properties, named `type.attribute`.
-/

namespace RouteMap.Annotation

/-- The verb and the properties of an endpoint. -/
structure Properties where
  verb : Option Verb := none
  custom : Table String := .empty
deriving DecidableEq, Inhabited

/-- The properties that an annotation which is no verb adds. -/
def selected (registry : Registry) (a : Annotation) : List (String × String) :=
  (a.attributes.entries.filter fun (name, _) => registry.selects a.type name).map
    fun (name, value) => (a.type ++ "." ++ name, value.flatten)

/-- What one more annotation says. -/
def Properties.add (registry : Registry) (p : Properties) (a : Annotation) : Properties :=
  match Verb.ofName? a.simpleName with
  | some verb => { p with verb := some verb }
  | none =>
    { p with custom := (a.selected registry).foldl (fun t (name, v) => t.insert name v) p.custom }

/-- What a list of annotations says. -/
def properties (registry : Registry) (annotations : List Annotation) : Properties :=
  annotations.foldl (Properties.add registry) {}

end RouteMap.Annotation
