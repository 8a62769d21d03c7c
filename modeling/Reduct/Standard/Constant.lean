import Reduct.Standard.Argument

namespace Reduct.Standard

def constants : List Binding :=
  [ .constant "true" (.bool true),
    .constant "false" (.bool false),
    .constant "null" .null,
    .constant "PHI" (.number 1.618033988),
    .constant "PI" (.number 3.141592653589793),
    .constant "E" (.number 2.718281828459045),
    .constant "TAU" (.number 6.283185307179586),
    .constant "LN2" (.number 0.6931471805599453),
    .constant "LN10" (.number 2.302585092994046),
    .constant "LOG2E" (.number 1.4426950408889634),
    .constant "LOG10E" (.number 0.4342944819032518),
    .constant "SQRT2" (.number 1.4142135623730951) ]

end Reduct.Standard
