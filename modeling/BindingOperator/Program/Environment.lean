/-!
The environment of the program: named texts that are set from outside.
-/

namespace BindingOperator

abbrev Environment := List (String × String)

end BindingOperator
