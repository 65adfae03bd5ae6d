import CypherExpr.Function.Aggregate
import CypherExpr.Function.Registry
import CypherExpr.Function.Scalar

/-!
# The standard functions

The functions that every engine knows unless it is given another registry, with their declared
return types.
-/

namespace CypherExpr.Standard

def listFunctions : List Function := [
  .scalar "size" .integer Scalar.size,
  .scalar "length" .integer Scalar.length,
  .scalar "head" .any Scalar.head,
  .scalar "last" .any Scalar.last,
  .scalar "tail" (.list .any) Scalar.tail,
  .scalar "reverse" .any Scalar.reverse,
  (Function.scalar "range" (.list .integer) Scalar.range).withArity 2 (some 3)]

def entityFunctions : List Function := [
  .scalar "keys" (.list .string) Scalar.keys,
  .scalar "labels" (.list .string) Scalar.labels,
  .scalar "type" .string Scalar.kind,
  .scalar "id" .integer Scalar.id,
  .scalar "properties" .map Scalar.properties,
  .scalar "nodes" (.list .node) Scalar.nodes,
  .scalar "relationships" (.list .relationship) Scalar.relationships]

def conversionFunctions : List Function := [
  (Function.scalar "coalesce" .any Scalar.coalesce).withArity 1 none,
  .scalar "toUpper" .string Scalar.toUpper,
  .scalar "toLower" .string Scalar.toLower,
  .scalar "trim" .string Scalar.trim,
  .scalar "toString" .string Scalar.toText,
  .scalar "toInteger" .integer Scalar.toInteger,
  .scalar "toFloat" .float Scalar.toFloat,
  .scalar "abs" .number Scalar.abs,
  .scalar "sqrt" .float Scalar.sqrt]

def aggregateFunctions : List Function := [
  .aggregate "count" .integer Aggregate.count,
  .aggregate "sum" .number Aggregate.sum,
  .aggregate "avg" .float Aggregate.avg,
  .aggregate "min" .any Aggregate.min,
  .aggregate "max" .any Aggregate.max,
  .aggregate "collect" (.list .any) Aggregate.collect]

def functions : List Function :=
  listFunctions ++ entityFunctions ++ conversionFunctions ++ aggregateFunctions

def registry : Registry := .ofFunctions functions

end CypherExpr.Standard
