import Orchestration.Expression.Basic

/-!
The engine that evaluates templates and queries.

Nothing else rests on how expressions are evaluated: a workflow is conducted with any engine.
-/

namespace Orchestration

namespace Engine

instance standard : Engine where
  evaluate
    | .template, text, data => Template.evaluate text data
    | .query, text, data => do .ok (Node.ofValue (← Query.evaluate text data.toValue))

end Engine

end Orchestration
