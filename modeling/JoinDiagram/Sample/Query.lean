namespace JoinDiagram.Sample

def indentedLines (lines : List String) : String := "\n         ".intercalate lines

def singleTable : String := "SELECT * FROM orders"

def noFrom : String := "SELECT 1"

def innerJoin : String := "SELECT * FROM orders o INNER JOIN customers c ON o.customer_id = c.id"

def allJoinKinds : String := indentedLines [
  "SELECT *",
  "FROM orders o",
  "INNER JOIN customers c ON o.customer_id = c.id",
  "LEFT JOIN payments p ON o.id = p.order_id",
  "RIGHT JOIN shipments s ON o.id = s.order_id",
  "FULL OUTER JOIN refunds r ON p.id = r.payment_id",
  "CROSS JOIN currencies x"]

def bridgeJoin : String := indentedLines [
  "SELECT e.name, p.title",
  "FROM employees e",
  "JOIN employee_projects ep ON e.id = ep.employee_id",
  "JOIN projects p ON ep.project_id = p.id"]

def commaJoin : String := "SELECT * FROM orders o, customers c"

def derivedTableJoin : String :=
  "SELECT * FROM orders o JOIN (SELECT id FROM customers) c ON o.customer_id = c.id"

def cteJoin : String := indentedLines [
  "WITH recent AS (SELECT * FROM orders WHERE created_at > '2024-01-01')",
  "SELECT * FROM recent r JOIN customers c ON r.customer_id = c.id"]

def insert : String := "INSERT INTO t VALUES (1)"

def typo : String := "SELECT * FORM orders"

def chainJoin (i : Nat) : String := s!" JOIN t{i + 1} ON t{i}.id = t{i + 1}.t{i}_id"

def linearJoinChain (tables : Nat) : String :=
  "SELECT * FROM t0" ++ String.join ((List.range (tables - 1)).map chainJoin)

def ofLength (length : Nat) : String :=
  singleTable ++ String.ofList (List.replicate (length - singleTable.length) ' ')

end JoinDiagram.Sample
