/-!
# Usage

The text that tells how the command is used.
-/

namespace Polystore.Cli

def usageText : String :=
  "Routes queries to the fastest of several backing stores, learning from every execution

Usage: polystore [OPTIONS] <COMMAND>

Commands:
  recommend <QUERY>   Show which store a query would be routed to
  execute <QUERY>     Execute a query on the selected (or named) store
      -s, --store <STORE>    Run on this store instead of the selected one
      -r, --repeat <N>       Execute this many times [default: 1]
  compare <QUERY>     Execute a query on every compatible store and compare
  history             List recorded executions, newest first
      --contains <TEXT>      Case-insensitive substring of the query text
      --store <STORE>        Only executions on this store
      --since-secs <N>       Only executions from the last N seconds
      -l, --limit <N>        At most this many executions [default: 20]
  stats               Aggregate execution statistics
      --store <STORE>        Only executions on this store
  clear               Delete all recorded executions and learned profiles
  help [COMMAND]      Print this text

Options:
  -d, --data-dir <DIR>             Directory for the execution log and learned profiles
      --timeout-ms <N>             Per-store timeout in milliseconds
      --confidence-threshold <P>   Confidence (percent) before learned history is trusted
      --compare-while-exploring    Run every candidate while a query is still being learned
  -h, --help                       Print this text
"

end Polystore.Cli
