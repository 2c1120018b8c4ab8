import Emplace.Program.Utility.Column
import Emplace.Program.Utility.Editing
import Emplace.Program.Utility.Expression
import Emplace.Program.Utility.Grep
import Emplace.Program.Utility.Interval
import Emplace.Program.Utility.Sort
import Emplace.Program.Utility.Test
import Emplace.Program.Utility.Translate

namespace Emplace.Program

def utilities : List (String × Utility) :=
  [("[", Utility.bracket), ("basename", Utility.basename), ("cat", Utility.cat), ("comm", Utility.comm),
    ("cut", Utility.cut), ("dirname", Utility.dirname), ("echo", Utility.echo), ("expand", Utility.expand),
    ("egrep", Utility.oldGrep "-E"), ("expr", Utility.expr), ("false", fun _ _ => .silent 1),
    ("fgrep", Utility.oldGrep "-F"), ("fold", Utility.fold), ("grep", Utility.grep), ("head", Utility.head),
    ("id", Utility.identity), ("nl", Utility.nl), ("paste", Utility.paste), ("printenv", Utility.printenv),
    ("printf", Utility.printf), ("pwd", Utility.pwd), ("rev", Utility.rev), ("sed", Utility.sed), ("seq", Utility.seq),
    ("sleep", Utility.sleep), ("sort", Utility.sort), ("tac", Utility.tac), ("tail", Utility.tail),
    ("test", Utility.testAs "test"), ("tr", Utility.tr), ("true", fun _ _ => .silent 0), ("uniq", Utility.uniq),
    ("wc", Utility.wc), ("whoami", Utility.whoami), ("yes", Utility.yes)]

end Emplace.Program
