/-!
# Containers

The texts of the modules with containers, and with functions that keep lists in order. Every line of
them is indented by two, and they hold no braces.
-/

namespace SnippetRunner.Library

/-- The text of `operator`. -/
def operatorText : String := r#"
  _abs = abs

  def lt(a, b): return a < b
  def le(a, b): return a <= b
  def eq(a, b): return a == b
  def ne(a, b): return a != b
  def ge(a, b): return a >= b
  def gt(a, b): return a > b
  def not_(a): return not a
  def truth(a): return True if a else False
  def is_(a, b): return a is b
  def is_not(a, b): return a is not b
  def add(a, b): return a + b
  def and_(a, b): return a & b
  def floordiv(a, b): return a // b
  def inv(a): return ~a
  invert = inv
  def lshift(a, b): return a << b
  def mod(a, b): return a % b
  def mul(a, b): return a * b
  def matmul(a, b): return a @ b
  def neg(a): return -a
  def or_(a, b): return a | b
  def pos(a): return +a
  def pow(a, b): return a ** b
  def rshift(a, b): return a >> b
  def sub(a, b): return a - b
  def truediv(a, b): return a / b
  def xor(a, b): return a ^ b
  def concat(a, b):
      if not hasattr(a, '__getitem__'):
          raise TypeError("'%s' object can't be concatenated" % type(a).__name__)
      return a + b
  def contains(a, b): return b in a
  def countOf(a, b):
      count = 0
      for item in a:
          if item is b or item == b:
              count += 1
      return count
  def delitem(a, b): del a[b]
  def getitem(a, b): return a[b]
  def indexOf(a, b):
      for place, item in enumerate(a):
          if item is b or item == b:
              return place
      raise ValueError('sequence.index(x): x not in sequence')
  def setitem(a, b, c): a[b] = c
  def abs(a): return _abs(a)
  def index(a): return range(a).stop
  def length_hint(a, default=0):
      try:
          return len(a)
      except TypeError:
          return default
  def call(f, /, *args, **keywords): return f(*args, **keywords)
  def iadd(a, b):
      a += b
      return a
  def iand(a, b):
      a &= b
      return a
  def ifloordiv(a, b):
      a //= b
      return a
  def ilshift(a, b):
      a <<= b
      return a
  def imod(a, b):
      a %= b
      return a
  def imul(a, b):
      a *= b
      return a
  def imatmul(a, b):
      a @= b
      return a
  def ior(a, b):
      a |= b
      return a
  def ipow(a, b):
      a **= b
      return a
  def irshift(a, b):
      a >>= b
      return a
  def isub(a, b):
      a -= b
      return a
  def itruediv(a, b):
      a /= b
      return a
  def ixor(a, b):
      a ^= b
      return a
  iconcat = iadd

  class itemgetter:
      _complaint_name = 'operator.itemgetter'
      def __init__(self, /, *items):
          if not items:
              raise TypeError('itemgetter expected at least 1 argument, got 0')
          self._items = items
      def __call__(self, owner, /):
          if len(self._items) == 1:
              return owner[self._items[0]]
          return tuple([owner[item] for item in self._items])
      def __repr__(self):
          return 'operator.itemgetter(%s)' % ', '.join(map(repr, self._items))

  class attrgetter:
      _complaint_name = 'operator.attrgetter'
      def __init__(self, /, *attrs):
          if not attrs:
              raise TypeError('attrgetter expected at least 1 argument, got 0')
          self._attrs = attrs
          for name in self._attrs:
              if not isinstance(name, str):
                  raise TypeError('attribute name must be a string')
      def __call__(self, owner, /):
          if len(self._attrs) == 1:
              return _resolve(owner, self._attrs[0])
          return tuple([_resolve(owner, name) for name in self._attrs])
      def __repr__(self):
          return 'operator.attrgetter(%s)' % ', '.join(map(repr, self._attrs))

  def _resolve(owner, path):
      for name in path.split('.'):
          owner = getattr(owner, name)
      return owner

  class methodcaller:
      _complaint_name = 'operator.methodcaller'
      def __init__(self, /, *args, **keywords):
          if not args:
              raise TypeError('methodcaller needs at least one argument, the method name')
          self._name, *self._args = args
          if not isinstance(self._name, str):
              raise TypeError('method name must be a string')
          self._keywords = keywords
      def __call__(self, owner, /):
          return getattr(owner, self._name)(*self._args, **self._keywords)
      def __repr__(self):
          parts = [repr(self._name)] + [repr(arg) for arg in self._args]
          parts += ['%s=%r' % entry for entry in self._keywords.items()]
          return 'operator.methodcaller(%s)' % ', '.join(parts)
"#

/-- The text of `bisect`. -/
def bisectText : String := r#"
  def bisect_right(a, x, lo=0, hi=None, *, key=None):
      if lo < 0:
          raise ValueError('lo must be non-negative')
      if hi is None:
          hi = len(a)
      while lo < hi:
          mid = (lo + hi) // 2
          if x < (a[mid] if key is None else key(a[mid])):
              hi = mid
          else:
              lo = mid + 1
      return lo

  def bisect_left(a, x, lo=0, hi=None, *, key=None):
      if lo < 0:
          raise ValueError('lo must be non-negative')
      if hi is None:
          hi = len(a)
      while lo < hi:
          mid = (lo + hi) // 2
          if (a[mid] if key is None else key(a[mid])) < x:
              lo = mid + 1
          else:
              hi = mid
      return lo

  def insort_right(a, x, lo=0, hi=None, *, key=None):
      a.insert(bisect_right(a, x if key is None else key(x), lo, hi, key=key), x)

  def insort_left(a, x, lo=0, hi=None, *, key=None):
      a.insert(bisect_left(a, x if key is None else key(x), lo, hi, key=key), x)

  bisect = bisect_right
  insort = insort_right
"#

/-- The text of `heapq`. -/
def heapqText : String := r#"
  def _check(heap):
      if not isinstance(heap, list):
          raise TypeError('heap argument must be a list')

  def _less(a, b):
      return a < b

  def _more(a, b):
      return b < a

  def _rise(heap, start, place, before):
      item = heap[place]
      while place > start:
          parent = (place - 1) >> 1
          if not before(item, heap[parent]):
              break
          heap[place] = heap[parent]
          place = parent
      heap[place] = item

  def _sink(heap, place, before):
      end = len(heap)
      start = place
      item = heap[place]
      child = 2 * place + 1
      while child < end:
          other = child + 1
          if other < end and not before(heap[child], heap[other]):
              child = other
          heap[place] = heap[child]
          place = child
          child = 2 * place + 1
      heap[place] = item
      _rise(heap, start, place, before)

  def _order(heap, before):
      for place in reversed(range(len(heap) // 2)):
          _sink(heap, place, before)

  def _take(heap, before):
      last = heap.pop()
      if not heap:
          return last
      top, heap[0] = heap[0], last
      _sink(heap, 0, before)
      return top

  def heappush(heap, item, /):
      _check(heap)
      heap.append(item)
      _rise(heap, 0, len(heap) - 1, _less)

  def heappop(heap, /):
      _check(heap)
      if not heap:
          raise IndexError('index out of range')
      return _take(heap, _less)

  def heapreplace(heap, item, /):
      _check(heap)
      if not heap:
          raise IndexError('index out of range')
      top, heap[0] = heap[0], item
      _sink(heap, 0, _less)
      return top

  def heappushpop(heap, item, /):
      _check(heap)
      if heap and heap[0] < item:
          item, heap[0] = heap[0], item
          _sink(heap, 0, _less)
      return item

  def heapify(heap, /):
      _check(heap)
      _order(heap, _less)

  def _heapify_max(heap, /):
      _order(heap, _more)

  def _heappop_max(heap, /):
      return _take(heap, _more)

  def _heapreplace_max(heap, item, /):
      top, heap[0] = heap[0], item
      _sink(heap, 0, _more)
      return top

  def merge(*iterables, key=None, reverse=False):
      before = _more if reverse else _less
      heap = []
      for number, iterable in enumerate(iterables):
          source = iter(iterable)
          for item in source:
              rank = item if key is None else key(item)
              heap.append([rank, number if not reverse else -number, item, source])
              break
      _order(heap, before)
      while heap:
          entry = heap[0]
          yield entry[2]
          for item in entry[3]:
              entry[0] = item if key is None else key(item)
              entry[2] = item
              _sink(heap, 0, before)
              break
          else:
              _take(heap, before)

  def nsmallest(n, iterable, key=None):
      return sorted(iterable, key=key)[:max(n, 0)]

  def nlargest(n, iterable, key=None):
      return sorted(iterable, key=key, reverse=True)[:max(n, 0)]
"#

/-- The text of `collections.abc`. -/
def collectionsAbcText : String := r#"
  def _abstract(function):
      function.__isabstractmethod__ = True
      return function

  class ABCMeta(type):
      def __new__(mcls, name, bases, namespace, /, **keywords):
          cls = super().__new__(mcls, name, bases, namespace, **keywords)
          missing = set(name for name, member in namespace.items()
                        if getattr(member, '__isabstractmethod__', False))
          for base in bases:
              for name in getattr(base, '__abstractmethods__', ()):
                  if getattr(getattr(cls, name, None), '__isabstractmethod__', False):
                      missing.add(name)
          cls.__abstractmethods__ = frozenset(missing)
          cls._registered = []
          return cls
      def __call__(cls, /, *args, **keywords):
          missing = sorted(cls.__abstractmethods__)
          if missing:
              raise TypeError("Can't instantiate abstract class %s with abstract method%s %s" % (
                  cls.__name__, '' if len(missing) == 1 else 's', ', '.join(missing)))
          return super().__call__(*args, **keywords)
      def register(cls, subclass):
          cls._registered.append(subclass)
          return subclass
      def __instancecheck__(cls, instance):
          return cls.__subclasscheck__(type(instance))
      def __subclasscheck__(cls, subclass):
          if cls in subclass.__mro__:
              return True
          wanted = cls.__dict__.get('_wanted')
          if wanted is not None and all(_has(subclass, name) for name in wanted):
              return True
          for known in cls._registered:
              if subclass is known or issubclass(subclass, known):
                  return True
          return any(issubclass(subclass, kind) for kind in cls.__dict__.get('_below', []))

  def _has(kind, name):
      for base in kind.__mro__:
          if name == '__hash__' and base in (list, dict, set, bytearray):
              return False
          if name in base.__dict__:
              return base.__dict__[name] is not None
      return getattr(kind, name, None) is not None if kind.__module__ == 'builtins' else False

  class Hashable(metaclass=ABCMeta):
      __slots__ = ()
      _wanted = ('__hash__',)
      @_abstract
      def __hash__(self):
          return 0

  class Awaitable(metaclass=ABCMeta):
      __slots__ = ()
      _wanted = ('__await__',)
      @_abstract
      def __await__(self):
          yield

  class Iterable(metaclass=ABCMeta):
      __slots__ = ()
      _wanted = ('__iter__',)
      @_abstract
      def __iter__(self):
          while False:
              yield None
      @classmethod
      def __class_getitem__(cls, item):
          return cls

  class Iterator(Iterable):
      __slots__ = ()
      _wanted = ('__iter__', '__next__')
      @_abstract
      def __next__(self):
          raise StopIteration
      def __iter__(self):
          return self

  class Reversible(Iterable):
      __slots__ = ()
      _wanted = ('__reversed__', '__iter__')
      @_abstract
      def __reversed__(self):
          while False:
              yield None

  class Generator(Iterator):
      __slots__ = ()
      _wanted = ('__iter__', '__next__', 'send', 'throw', 'close')
      def __next__(self):
          return self.send(None)
      @_abstract
      def send(self, value):
          raise StopIteration
      @_abstract
      def throw(self, typ, val=None, tb=None):
          raise typ
      def close(self):
          try:
              self.throw(GeneratorExit)
          except (GeneratorExit, StopIteration):
              pass
          else:
              raise RuntimeError('generator ignored GeneratorExit')

  class Sized(metaclass=ABCMeta):
      __slots__ = ()
      _wanted = ('__len__',)
      @_abstract
      def __len__(self):
          return 0

  class Container(metaclass=ABCMeta):
      __slots__ = ()
      _wanted = ('__contains__',)
      @_abstract
      def __contains__(self, x):
          return False

  class Callable(metaclass=ABCMeta):
      __slots__ = ()
      _wanted = ('__call__',)
      @_abstract
      def __call__(self, *args, **keywords):
          return False

  class Collection(Sized, Iterable, Container):
      __slots__ = ()
      _wanted = ('__len__', '__iter__', '__contains__')

  class Set(Collection):
      __slots__ = ()
      _below = [set, frozenset]
      def __le__(self, other):
          if not isinstance(other, Set):
              return NotImplemented
          return len(self) <= len(other) and all(item in other for item in self)
      def __lt__(self, other):
          if not isinstance(other, Set):
              return NotImplemented
          return len(self) < len(other) and self.__le__(other)
      def __gt__(self, other):
          if not isinstance(other, Set):
              return NotImplemented
          return len(self) > len(other) and self.__ge__(other)
      def __ge__(self, other):
          if not isinstance(other, Set):
              return NotImplemented
          return len(self) >= len(other) and all(item in self for item in other)
      def __eq__(self, other):
          if not isinstance(other, Set):
              return NotImplemented
          return len(self) == len(other) and self.__le__(other)
      __hash__ = None
      @classmethod
      def _from_iterable(cls, it):
          return cls(it)
      def __and__(self, other):
          if not isinstance(other, Iterable):
              return NotImplemented
          return self._from_iterable(item for item in other if item in self)
      __rand__ = __and__
      def isdisjoint(self, other):
          return not any(item in self for item in other)
      def __or__(self, other):
          if not isinstance(other, Iterable):
              return NotImplemented
          return self._from_iterable(item for part in (self, other) for item in part)
      __ror__ = __or__
      def __sub__(self, other):
          if not isinstance(other, Set):
              if not isinstance(other, Iterable):
                  return NotImplemented
              other = self._from_iterable(other)
          return self._from_iterable(item for item in self if item not in other)
      def __rsub__(self, other):
          if not isinstance(other, Iterable):
              return NotImplemented
          return self._from_iterable(item for item in other if item not in self)
      def __xor__(self, other):
          if not isinstance(other, Iterable):
              return NotImplemented
          other = self._from_iterable(other)
          return (self - other) | (other - self)
      __rxor__ = __xor__

  class MutableSet(Set):
      __slots__ = ()
      _below = [set]
      @_abstract
      def add(self, value):
          raise NotImplementedError
      @_abstract
      def discard(self, value):
          raise NotImplementedError
      def remove(self, value):
          if value not in self:
              raise KeyError(value)
          self.discard(value)
      def pop(self):
          for value in self:
              break
          else:
              raise KeyError from None
          self.discard(value)
          return value
      def clear(self):
          for value in list(self):
              self.discard(value)
      def __ior__(self, other):
          for value in other:
              self.add(value)
          return self
      def __iand__(self, other):
          for value in self - other:
              self.discard(value)
          return self
      def __isub__(self, other):
          if other is self:
              self.clear()
          else:
              for value in other:
                  self.discard(value)
          return self

  class Mapping(Collection):
      __slots__ = ()
      _below = [dict]
      @_abstract
      def __getitem__(self, key):
          raise KeyError
      def get(self, key, default=None):
          try:
              return self[key]
          except KeyError:
              return default
      def __contains__(self, key):
          try:
              self[key]
          except KeyError:
              return False
          return True
      def keys(self):
          return KeysView(self)
      def items(self):
          return ItemsView(self)
      def values(self):
          return ValuesView(self)
      def __eq__(self, other):
          if not isinstance(other, Mapping):
              return NotImplemented
          return dict(self.items()) == dict(other.items())
      __hash__ = None
      __reversed__ = None

  class MappingView(Sized):
      __slots__ = ('_mapping',)
      def __init__(self, mapping):
          self._mapping = mapping
      def __len__(self):
          return len(self._mapping)
      def __repr__(self):
          return '%s(%r)' % (type(self).__name__, self._mapping)

  class KeysView(MappingView, Set):
      __slots__ = ()
      _below = [type(dict().keys())]
      @classmethod
      def _from_iterable(cls, it):
          return set(it)
      def __contains__(self, key):
          return key in self._mapping
      def __iter__(self):
          yield from self._mapping

  class ItemsView(MappingView, Set):
      __slots__ = ()
      _below = [type(dict().items())]
      @classmethod
      def _from_iterable(cls, it):
          return set(it)
      def __contains__(self, item):
          key, value = item
          try:
              held = self._mapping[key]
          except KeyError:
              return False
          return held is value or held == value
      def __iter__(self):
          for key in self._mapping:
              yield key, self._mapping[key]

  class ValuesView(MappingView, Collection):
      __slots__ = ()
      _below = [type(dict().values())]
      def __contains__(self, value):
          return any(held is value or held == value for held in self)
      def __iter__(self):
          for key in self._mapping:
              yield self._mapping[key]

  class MutableMapping(Mapping):
      __slots__ = ()
      _below = [dict]
      @_abstract
      def __setitem__(self, key, value):
          raise KeyError
      @_abstract
      def __delitem__(self, key):
          raise KeyError
      _absent = object()
      def pop(self, key, default=_absent):
          try:
              value = self[key]
          except KeyError:
              if default is self._absent:
                  raise
              return default
          del self[key]
          return value
      def popitem(self):
          for key in self:
              break
          else:
              raise KeyError from None
          value = self[key]
          del self[key]
          return key, value
      def clear(self):
          for key in list(self):
              del self[key]
      def update(self, other=(), /, **keywords):
          if hasattr(other, 'keys'):
              for key in other.keys():
                  self[key] = other[key]
          else:
              for key, value in other:
                  self[key] = value
          for key, value in keywords.items():
              self[key] = value
      def setdefault(self, key, default=None):
          try:
              return self[key]
          except KeyError:
              self[key] = default
          return default

  class Sequence(Reversible, Collection):
      __slots__ = ()
      _wanted = None
      _below = [tuple, str, range, bytes, bytearray, list]
      @_abstract
      def __getitem__(self, index):
          raise IndexError
      def __iter__(self):
          place = 0
          try:
              while True:
                  yield self[place]
                  place += 1
          except IndexError:
              return
      def __contains__(self, value):
          return any(item is value or item == value for item in self)
      def __reversed__(self):
          for place in reversed(range(len(self))):
              yield self[place]
      def index(self, value, start=0, stop=None):
          if start is not None and start < 0:
              start = max(len(self) + start, 0)
          if stop is not None and stop < 0:
              stop += len(self)
          place = start
          while stop is None or place < stop:
              try:
                  item = self[place]
              except IndexError:
                  break
              if item is value or item == value:
                  return place
              place += 1
          raise ValueError
      def count(self, value):
          return sum(1 for item in self if item is value or item == value)

  class ByteString(Sequence):
      __slots__ = ()
      _below = [bytes, bytearray]

  class MutableSequence(Sequence):
      __slots__ = ()
      _below = [list, bytearray]
      @_abstract
      def __setitem__(self, index, value):
          raise IndexError
      @_abstract
      def __delitem__(self, index):
          raise IndexError
      @_abstract
      def insert(self, index, value):
          raise IndexError
      def append(self, value):
          self.insert(len(self), value)
      def clear(self):
          try:
              while True:
                  self.pop()
          except IndexError:
              pass
      def reverse(self):
          n = len(self)
          for place in range(n // 2):
              self[place], self[n - place - 1] = self[n - place - 1], self[place]
      def extend(self, values):
          if values is self:
              values = list(values)
          for value in values:
              self.append(value)
      def pop(self, index=-1):
          value = self[index]
          del self[index]
          return value
      def remove(self, value):
          del self[self.index(value)]
      def __iadd__(self, values):
          self.extend(values)
          return self
"#

/-- The text of `collections`. -/
def collectionsText : String := r#"
  from operator import index as _index
  from _collections_abc import (MutableMapping as _MutableMapping, Sequence as _Sequence,
                                MutableSequence as _MutableSequence)

  from collections import abc
  _absent = object()

  class OrderedDict(dict):
      _complaint_name = 'collections.OrderedDict'
      def popitem(self, last=True):
          if not self:
              raise KeyError('dictionary is empty')
          key = next(reversed(self) if last else iter(self))
          return key, self.pop(key)
      def move_to_end(self, key, last=True):
          value = dict.pop(self, key)
          if last:
              dict.__setitem__(self, key, value)
          else:
              others = list(self.items())
              dict.clear(self)
              dict.__setitem__(self, key, value)
              dict.update(self, others)
      def __eq__(self, other):
          if isinstance(other, OrderedDict):
              return dict.__eq__(self, other) and list(self) == list(other)
          return dict.__eq__(self, other)
      def __ne__(self, other):
          return not self == other
      __hash__ = None
      def __repr__(self):
          if not self:
              return '%s()' % type(self).__name__
          return '%s(%r)' % (type(self).__name__, list(self.items()))
      def copy(self):
          return self.__class__(self)
      __copy__ = copy
      @classmethod
      def fromkeys(cls, iterable, value=None):
          made = cls()
          for key in iterable:
              made[key] = value
          return made
      def __or__(self, other):
          if not isinstance(other, dict):
              return NotImplemented
          made = self.__class__(self)
          made.update(other)
          return made
      def __ror__(self, other):
          if not isinstance(other, dict):
              return NotImplemented
          made = self.__class__(other)
          made.update(self)
          return made
      def __ior__(self, other):
          self.update(other)
          return self

  class defaultdict(dict):
      _complaint_name = 'collections.defaultdict'
      def __init__(self, default_factory=None, /, *args, **keywords):
          if default_factory is not None and not callable(default_factory):
              raise TypeError('first argument must be callable or None')
          self.default_factory = default_factory
          super().__init__(*args, **keywords)
      def __missing__(self, key):
          if self.default_factory is None:
              raise KeyError(key)
          self[key] = value = self.default_factory()
          return value
      def __repr__(self):
          return '%s(%r, %s)' % (type(self).__name__, self.default_factory, dict.__repr__(self))
      def copy(self):
          return type(self)(self.default_factory, self)
      __copy__ = copy
      def __or__(self, other):
          if not isinstance(other, dict):
              return NotImplemented
          made = self.copy()
          made.update(other)
          return made
      def __ror__(self, other):
          if not isinstance(other, dict):
              return NotImplemented
          made = type(self)(self.default_factory, other)
          made.update(self)
          return made

  class Counter(dict):
      def __init__(self, iterable=None, /, **keywords):
          super().__init__()
          self.update(iterable, **keywords)
      def __missing__(self, key):
          return 0
      def total(self):
          return sum(self.values())
      def most_common(self, n=None):
          rows = sorted(self.items(), key=lambda entry: entry[1], reverse=True)
          return rows if n is None else rows[:max(n, 0)]
      def elements(self):
          for item, count in self.items():
              for _ in range(count):
                  yield item
      @classmethod
      def fromkeys(cls, iterable, v=None):
          raise NotImplementedError(
              'Counter.fromkeys() is undefined.  Use Counter(iterable) instead.')
      def update(self, iterable=None, /, **keywords):
          if iterable is not None:
              if isinstance(iterable, dict) or hasattr(iterable, 'items'):
                  if self:
                      for item, count in iterable.items():
                          self[item] = count + self.get(item, 0)
                  else:
                      dict.update(self, iterable)
              else:
                  for item in iterable:
                      self[item] = self.get(item, 0) + 1
          if keywords:
              self.update(keywords)
      def subtract(self, iterable=None, /, **keywords):
          if iterable is not None:
              if isinstance(iterable, dict) or hasattr(iterable, 'items'):
                  for item, count in iterable.items():
                      self[item] = self.get(item, 0) - count
              else:
                  for item in iterable:
                      self[item] = self.get(item, 0) - 1
          if keywords:
              self.subtract(keywords)
      def copy(self):
          return self.__class__(self)
      __copy__ = copy
      def __delitem__(self, item):
          if item in self:
              super().__delitem__(item)
      def __repr__(self):
          if not self:
              return '%s()' % type(self).__name__
          try:
              rows = dict(self.most_common())
          except TypeError:
              rows = dict(self)
          return '%s(%r)' % (type(self).__name__, rows)
      def __eq__(self, other):
          if not isinstance(other, Counter):
              return NotImplemented
          return all(self[e] == other[e] for c in (self, other) for e in c)
      def __ne__(self, other):
          if not isinstance(other, Counter):
              return NotImplemented
          return not self == other
      __hash__ = None
      def __le__(self, other):
          if not isinstance(other, Counter):
              return NotImplemented
          return all(self[e] <= other[e] for c in (self, other) for e in c)
      def __lt__(self, other):
          if not isinstance(other, Counter):
              return NotImplemented
          return self <= other and self != other
      def __ge__(self, other):
          if not isinstance(other, Counter):
              return NotImplemented
          return all(self[e] >= other[e] for c in (self, other) for e in c)
      def __gt__(self, other):
          if not isinstance(other, Counter):
              return NotImplemented
          return self >= other and self != other
      def _joined(self, other, join):
          made = Counter()
          for item in self:
              count = join(self[item], other[item])
              if count > 0:
                  made[item] = count
          for item in other:
              if item not in self:
                  count = join(0, other[item])
                  if count > 0:
                      made[item] = count
          return made
      def __add__(self, other):
          if not isinstance(other, Counter):
              return NotImplemented
          return self._joined(other, lambda a, b: a + b)
      def __sub__(self, other):
          if not isinstance(other, Counter):
              return NotImplemented
          return self._joined(other, lambda a, b: a - b)
      def __or__(self, other):
          if not isinstance(other, Counter):
              return NotImplemented
          return self._joined(other, max)
      def __and__(self, other):
          if not isinstance(other, Counter):
              return NotImplemented
          return self._joined(other, min)
      def __pos__(self):
          return self._joined(Counter(), lambda a, b: a)
      def __neg__(self):
          made = Counter()
          for item, count in self.items():
              if count < 0:
                  made[item] = -count
          return made
      def _positive(self):
          for item in [item for item, count in self.items() if not count > 0]:
              del self[item]
          return self
      def __iadd__(self, other):
          for item, count in other.items():
              self[item] += count
          return self._positive()
      def __isub__(self, other):
          for item, count in other.items():
              self[item] -= count
          return self._positive()
      def __ior__(self, other):
          for item, count in other.items():
              if count > self[item]:
                  self[item] = count
          return self._positive()
      def __iand__(self, other):
          for item, count in self.items():
              if other[item] < count:
                  self[item] = other[item]
          return self._positive()

  class deque:
      _complaint_name = 'collections.deque'
      def __init__(self, iterable=(), maxlen=None):
          if maxlen is not None:
              if not isinstance(maxlen, int):
                  raise TypeError('an integer is required')
              if maxlen < 0:
                  raise ValueError('maxlen must be non-negative')
          self._items, self._maxlen, self._changes = [], maxlen, 0
          self.extend(iterable)
      @property
      def maxlen(self):
          return self._maxlen
      @maxlen.setter
      def maxlen(self, value):
          raise AttributeError("attribute 'maxlen' of 'collections.deque' objects is not writable")
      def append(self, x, /):
          self._changes += 1
          self._items.append(x)
          if self._maxlen is not None and len(self._items) > self._maxlen:
              del self._items[0]
      def appendleft(self, x, /):
          self._changes += 1
          self._items.insert(0, x)
          if self._maxlen is not None and len(self._items) > self._maxlen:
              del self._items[-1]
      def extend(self, iterable, /):
          for x in list(iterable) if iterable is self else iterable:
              self.append(x)
      def extendleft(self, iterable, /):
          for x in list(iterable) if iterable is self else iterable:
              self.appendleft(x)
      def pop(self):
          if not self._items:
              raise IndexError('pop from an empty deque')
          self._changes += 1
          return self._items.pop()
      def popleft(self):
          if not self._items:
              raise IndexError('pop from an empty deque')
          self._changes += 1
          return self._items.pop(0)
      def clear(self):
          self._changes += 1
          self._items.clear()
      def copy(self):
          return type(self)(self._items, self._maxlen)
      __copy__ = copy
      def count(self, x, /):
          return self._items.count(x)
      def index(self, x, start=0, stop=None, /):
          try:
              if stop is None:
                  return self._items.index(x, start)
              return self._items.index(x, start, stop)
          except ValueError:
              raise ValueError('%r is not in deque' % (x,)) from None
      def insert(self, i, x, /):
          if len(self._items) == self._maxlen:
              raise IndexError('deque already at its maximum size')
          self._changes += 1
          self._items.insert(i, x)
      def remove(self, value, /):
          if value not in self._items:
              raise ValueError('deque.remove(x): x not in deque')
          self._changes += 1
          self._items.remove(value)
      def reverse(self):
          self._changes += 1
          self._items.reverse()
      def rotate(self, n=1, /):
          n = _index(n)
          if self._items:
              self._changes += 1
              n %= len(self._items)
              self._items[:] = self._items[-n:] + self._items[:-n] if n else self._items
      def __len__(self):
          return len(self._items)
      def _place(self, index):
          if isinstance(index, slice) or not hasattr(index, '__index__'):
              raise TypeError("sequence index must be integer, not '%s'" % type(index).__name__)
          index = _index(index)
          if not -len(self._items) <= index < len(self._items):
              raise IndexError('deque index out of range')
          return index
      def __getitem__(self, index, /):
          return self._items[self._place(index)]
      def __setitem__(self, index, value, /):
          self._items[self._place(index)] = value
      def __delitem__(self, index, /):
          index = self._place(index)
          self._changes += 1
          del self._items[index]
      def __contains__(self, value, /):
          return value in self._items
      def __iter__(self):
          return _walk(self, range(len(self._items)))
      def __reversed__(self):
          return _walk(self, reversed(range(len(self._items))))
      def __eq__(self, other):
          return self._items == other._items if isinstance(other, deque) else NotImplemented
      def __lt__(self, other):
          return self._items < other._items if isinstance(other, deque) else NotImplemented
      def __le__(self, other):
          return self._items <= other._items if isinstance(other, deque) else NotImplemented
      def __gt__(self, other):
          return self._items > other._items if isinstance(other, deque) else NotImplemented
      def __ge__(self, other):
          return self._items >= other._items if isinstance(other, deque) else NotImplemented
      __hash__ = None
      def __add__(self, other, /):
          if not isinstance(other, deque):
              raise TypeError('can only concatenate deque (not "%s") to deque'
                              % type(other).__name__)
          made = self.copy()
          made.extend(other)
          return made
      def __iadd__(self, other, /):
          self.extend(other)
          return self
      def __mul__(self, n, /):
          made = type(self)((), self._maxlen)
          made.extend(self._items * n)
          return made
      __rmul__ = __mul__
      def __imul__(self, n, /):
          items = self._items * n
          self.clear()
          self.extend(items)
          return self
      def __repr__(self):
          if self in _shown:
              return '[...]'
          _shown.append(self)
          try:
              inner = repr(self._items)
          finally:
              _shown.pop()
          if self._maxlen is None:
              return '%s(%s)' % (type(self).__name__, inner)
          return '%s(%s, maxlen=%d)' % (type(self).__name__, inner, self._maxlen)
      @classmethod
      def __class_getitem__(cls, item):
          return cls

  class _Shown:
      def __init__(self):
          self._held = []
      def append(self, item):
          self._held.append(item)
      def pop(self):
          self._held.pop()
      def __contains__(self, item):
          return any(held is item for held in self._held)

  _shown = _Shown()

  def _walk(owner, places):
      changes = owner._changes
      for place in places:
          if owner._changes != changes:
              raise RuntimeError('deque mutated during iteration')
          yield owner._items[place]
      if owner._changes != changes:
          raise RuntimeError('deque mutated during iteration')

  class _tuplegetter:
      __slots__ = ('_index', '__doc__')
      def __init__(self, index, doc):
          self._index, self.__doc__ = index, doc
      def __get__(self, owner, kind=None):
          return self if owner is None else tuple.__getitem__(owner, self._index)
      def __set__(self, owner, value):
          raise AttributeError("can't set attribute")
      def __delete__(self, owner):
          raise AttributeError("can't delete attribute")

  _keywords = ('False None True and as assert async await break class continue def del elif else '
               'except finally for from global if import in is lambda nonlocal not or pass raise '
               'return try while with yield').split()

  def namedtuple(typename, field_names, *, rename=False, defaults=None, module=None):
      if isinstance(field_names, str):
          field_names = field_names.replace(',', ' ').split()
      field_names = list(map(str, field_names))
      typename = str(typename)
      if rename:
          seen = set()
          for place, name in enumerate(field_names):
              if (not name.isidentifier() or name in _keywords or name.startswith('_')
                      or name in seen):
                  field_names[place] = '_%d' % place
              seen.add(name)
      for name in [typename] + field_names:
          if not name.isidentifier():
              raise ValueError('Type names and field names must be valid identifiers: %r' % name)
          if name in _keywords:
              raise ValueError('Type names and field names cannot be a keyword: %r' % name)
      seen = set()
      for name in field_names:
          if name.startswith('_') and not rename:
              raise ValueError('Field names cannot start with an underscore: %r' % name)
          if name in seen:
              raise ValueError('Encountered duplicate field name: %r' % name)
          seen.add(name)
      field_defaults = dict()
      if defaults is not None:
          defaults = tuple(defaults)
          if len(defaults) > len(field_names):
              raise TypeError('Got more default values than field names')
          if defaults:
              field_defaults = dict(zip(field_names[-len(defaults):], defaults))
      fields = tuple(field_names)
      def __new__(_cls, /, *args, **keywords):
          return tuple.__new__(_cls, _bind(typename + '.__new__()', fields, field_defaults,
                                           (_cls,) + args, keywords))
      @classmethod
      def _make(cls, iterable):
          made = tuple.__new__(cls, iterable)
          if len(made) != len(fields):
              raise TypeError('Expected %d arguments, got %d' % (len(fields), len(made)))
          return made
      def _replace(self, /, **keywords):
          made = self._make([keywords.pop(name, value) for name, value in zip(fields, self)])
          if keywords:
              raise ValueError('Got unexpected field names: %r' % (list(keywords),))
          return made
      def __repr__(self):
          return type(self).__name__ + '(%s)' % ', '.join(
              ['%s=%r' % entry for entry in zip(fields, self)])
      def _asdict(self):
          return dict(zip(fields, self))
      def __getnewargs__(self):
          return tuple(self)
      for method in (__new__, _make.__func__, _replace, __repr__, _asdict, __getnewargs__):
          method.__qualname__ = typename + '.' + method.__name__
      members = dict(
          __doc__='%s(%s)' % (typename, ', '.join(fields)), __slots__=(), _fields=fields,
          _field_defaults=field_defaults, __new__=__new__, _make=_make, _replace=_replace,
          __repr__=__repr__, _asdict=_asdict, __getnewargs__=__getnewargs__,
          __match_args__=fields, __module__='__main__' if module is None else module)
      for place, name in enumerate(fields):
          members[name] = _tuplegetter(place, 'Alias for field number %d' % place)
      return type(typename, (tuple,), members)

  class ChainMap(_MutableMapping):
      def __init__(self, *maps):
          self.maps = list(maps) or [dict()]
      def __missing__(self, key):
          raise KeyError(key)
      def __getitem__(self, key):
          for mapping in self.maps:
              try:
                  return mapping[key]
              except KeyError:
                  pass
          return self.__missing__(key)
      def get(self, key, default=None):
          return self[key] if key in self else default
      def __len__(self):
          return len(set().union(*self.maps))
      def __iter__(self):
          keys = dict()
          for mapping in reversed(self.maps):
              keys.update(dict.fromkeys(mapping))
          return iter(keys)
      def __contains__(self, key):
          return any(key in mapping for mapping in self.maps)
      def __bool__(self):
          return any(self.maps)
      def __repr__(self):
          return '%s(%s)' % (type(self).__name__, ', '.join(map(repr, self.maps)))
      @classmethod
      def fromkeys(cls, iterable, *args):
          return cls(dict.fromkeys(iterable, *args))
      def copy(self):
          return self.__class__(self.maps[0].copy(), *self.maps[1:])
      __copy__ = copy
      def new_child(self, m=None, **keywords):
          if m is None:
              m = keywords
          elif keywords:
              m.update(keywords)
          return self.__class__(m, *self.maps)
      @property
      def parents(self):
          return self.__class__(*self.maps[1:])
      def __setitem__(self, key, value):
          self.maps[0][key] = value
      def __delitem__(self, key):
          try:
              del self.maps[0][key]
          except KeyError:
              raise KeyError('Key not found in the first mapping: %r' % (key,))
      def popitem(self):
          try:
              return self.maps[0].popitem()
          except KeyError:
              raise KeyError('No keys found in the first mapping.')
      def pop(self, key, *args):
          try:
              return self.maps[0].pop(key, *args)
          except KeyError:
              raise KeyError('Key not found in the first mapping: %r' % (key,))
      def clear(self):
          self.maps[0].clear()
      def __or__(self, other):
          made = self.copy()
          made.maps[0].update(other)
          return made
      def __ior__(self, other):
          self.maps[0].update(other)
          return self

  class UserDict(_MutableMapping):
      def __init__(self, dict=None, /, **keywords):
          self.data = _dict()
          if dict is not None:
              self.update(dict)
          if keywords:
              self.update(keywords)
      def __len__(self):
          return len(self.data)
      def __getitem__(self, key):
          if key in self.data:
              return self.data[key]
          if hasattr(self.__class__, '__missing__'):
              return self.__class__.__missing__(self, key)
          raise KeyError(key)
      def __setitem__(self, key, item):
          self.data[key] = item
      def __delitem__(self, key):
          del self.data[key]
      def __iter__(self):
          return iter(self.data)
      def __contains__(self, key):
          return key in self.data
      def __repr__(self):
          return repr(self.data)
      def copy(self):
          return self.__class__(self.data)
      def __or__(self, other):
          if isinstance(other, UserDict):
              return self.__class__(self.data | other.data)
          if isinstance(other, _dict):
              return self.__class__(self.data | other)
          return NotImplemented
      def __ror__(self, other):
          if isinstance(other, UserDict):
              return self.__class__(other.data | self.data)
          if isinstance(other, _dict):
              return self.__class__(other | self.data)
          return NotImplemented
      def __ior__(self, other):
          self.data |= other.data if isinstance(other, UserDict) else other
          return self
      @classmethod
      def fromkeys(cls, iterable, value=None):
          made = cls()
          for key in iterable:
              made[key] = value
          return made

  _dict = dict

  class UserList(_MutableSequence):
      def __init__(self, initlist=None):
          self.data = [] if initlist is None else list(initlist)
      def __repr__(self):
          return repr(self.data)
      def _other(self, other):
          return other.data if isinstance(other, UserList) else other
      def __lt__(self, other):
          return self.data < self._other(other)
      def __le__(self, other):
          return self.data <= self._other(other)
      def __eq__(self, other):
          return self.data == self._other(other)
      def __gt__(self, other):
          return self.data > self._other(other)
      def __ge__(self, other):
          return self.data >= self._other(other)
      def __contains__(self, item):
          return item in self.data
      def __len__(self):
          return len(self.data)
      def __getitem__(self, i):
          if isinstance(i, slice):
              return self.__class__(self.data[i])
          return self.data[i]
      def __setitem__(self, i, item):
          self.data[i] = item
      def __delitem__(self, i):
          del self.data[i]
      def __add__(self, other):
          return self.__class__(self.data + list(self._other(other)))
      def __radd__(self, other):
          return self.__class__(list(self._other(other)) + self.data)
      def __iadd__(self, other):
          self.data += self._other(other)
          return self
      def __mul__(self, n):
          return self.__class__(self.data * n)
      __rmul__ = __mul__
      def append(self, item):
          self.data.append(item)
      def insert(self, i, item):
          self.data.insert(i, item)
      def pop(self, i=-1):
          return self.data.pop(i)
      def remove(self, item):
          self.data.remove(item)
      def clear(self):
          self.data.clear()
      def copy(self):
          return self.__class__(self)
      def count(self, item):
          return self.data.count(item)
      def index(self, item, *args):
          return self.data.index(item, *args)
      def reverse(self):
          self.data.reverse()
      def sort(self, /, *args, **keywords):
          self.data.sort(*args, **keywords)
      def extend(self, other):
          self.data.extend(self._other(other))

  class UserString(_Sequence):
      def __init__(self, seq):
          self.data = seq.data if isinstance(seq, UserString) else str(seq)
      def __str__(self):
          return str(self.data)
      def __repr__(self):
          return repr(self.data)
      def __hash__(self):
          return hash(self.data)
      def __eq__(self, other):
          return self.data == (other.data if isinstance(other, UserString) else other)
      def __lt__(self, other):
          return self.data < (other.data if isinstance(other, UserString) else other)
      def __contains__(self, char):
          return str(char) in self.data
      def __len__(self):
          return len(self.data)
      def __getitem__(self, index):
          return self.__class__(self.data[index])
      def __add__(self, other):
          return self.__class__(self.data + str(other))
      def __radd__(self, other):
          return self.__class__(str(other) + self.data)
      def __mul__(self, n):
          return self.__class__(self.data * n)
      __rmul__ = __mul__
      def __mod__(self, args):
          return self.__class__(self.data % args)
      def __getattr__(self, name):
          if name == 'data':
              raise AttributeError(name)
          method = getattr(self.data, name)
          def wrapped(*args, **keywords):
              result = method(*[str(a) if isinstance(a, UserString) else a for a in args],
                              **keywords)
              return self.__class__(result) if isinstance(result, str) else result
          return wrapped
"#

end SnippetRunner.Library
